import ChaosScenarios.Scenario.Build

/-!
# The tables `generate_scenarios.py` ships

`FAULT_DEFINITIONS`, `SEVERITY_SLUGS`, `SEVERITY_LABELS`, `TARGET_TIERS`, `SEVERITIES`,
`TIMING` and `INVARIANT_CRITERIA` as the script defines them, in their source order: eleven
fault types, eight target tiers, three severities. Braces in the PromQL queries are written
`\x7b` and `\x7d`.
-/

namespace ChaosScenarios.Config
set_option autoImplicit false
open ChaosScenarios.Scenario

/-- The network parameter record shared by the `tc` faults: `{key: value, "target_proto":
"tcp,udp", "device": "eth0"}`. -/
def netem (params : Params) : Params :=
  params ++ [("target_proto", .str "tcp,udp"), ("device", .str "eth0")]

/-- `FAULT_DEFINITIONS`. -/
def faultDefinitions : List (String × FaultDefinition) :=
  [("packet_loss", ⟨"network", "network",
      "Packet loss — simulates congested / lossy network links",
      [("mild", netem [("packet_loss", .int 10)]), ("moderate", netem [("packet_loss", .int 40)]),
       ("severe", netem [("packet_loss", .int 80)])]⟩),
   ("latency", ⟨"network", "network",
      "Added network latency — simulates slow / geographically distant peers",
      [("mild", netem [("latency", .int 100)]), ("moderate", netem [("latency", .int 500)]),
       ("severe", netem [("latency", .int 2000)])]⟩),
   ("bandwidth_throttle", ⟨"network", "network",
      "Bandwidth throttle — simulates underpowered or constrained uplinks",
      [("mild", netem [("bandwidth", .int 10000)]), ("moderate", netem [("bandwidth", .int 1000)]),
       ("severe", netem [("bandwidth", .int 100)])]⟩),
   ("packet_reorder", ⟨"network", "network",
      "Packet reordering — simulates out-of-order delivery disrupting protocol sequencing",
      [("mild", netem [("reorder", .int 25), ("latency", .int 10)]),
       ("moderate", netem [("reorder", .int 50), ("latency", .int 10)]),
       ("severe", netem [("reorder", .int 75), ("latency", .int 10)])]⟩),
   ("connection_drop", ⟨"connection_drop", "network",
      "Connection drop (iptables) — simulates intermittent TCP session resets",
      [("mild", [("probability", .float "0.1"), ("target_proto", .str "tcp"),
          ("rule_type", .str "drop")]),
       ("moderate", [("probability", .float "0.4"), ("target_proto", .str "tcp"),
          ("rule_type", .str "drop")]),
       ("severe", [("probability", .float "0.8"), ("target_proto", .str "tcp"),
          ("rule_type", .str "drop")])]⟩),
   ("dns_latency", ⟨"dns", "network",
      "DNS latency / failure — simulates slow or flaky service discovery",
      [("mild", [("delay_ms", .int 250), ("failure_rate", .float "0.0")]),
       ("moderate", [("delay_ms", .int 1000), ("failure_rate", .float "0.1")]),
       ("severe", [("delay_ms", .int 5000), ("failure_rate", .float "0.3")])]⟩),
   ("container_restart", ⟨"container_restart", "applications",
      "Container restart — simulates process crash and recovery",
      [("mild", [("grace_period", .int 30)]), ("moderate", [("grace_period", .int 5)]),
       ("severe", [("grace_period", .int 0)])]⟩),
   ("container_pause", ⟨"container_pause", "applications",
      "Container pause (SIGSTOP) — simulates frozen process / GC pause / OOM stall",
      [("mild", [("duration", .str "30s"), ("unpause", .bool true)]),
       ("moderate", [("duration", .str "60s"), ("unpause", .bool true)]),
       ("severe", [("duration", .str "120s"), ("unpause", .bool true)])]⟩),
   ("cpu_stress", ⟨"cpu_stress", "cpu-memory",
      "CPU stress — simulates CPU-bound workload competing with validator logic",
      [("mild", [("cpu_percent", .int 50)]), ("moderate", [("cpu_percent", .int 75)]),
       ("severe", [("cpu_percent", .int 95)])]⟩),
   ("memory_pressure", ⟨"memory_stress", "cpu-memory",
      "Memory pressure — simulates memory-constrained environment / memory leak",
      [("mild", [("memory_mb", .int 256)]), ("moderate", [("memory_mb", .int 512)]),
       ("severe", [("memory_mb", .int 1024)])]⟩),
   ("disk_io", ⟨"disk_io", "filesystem",
      "Disk I/O delay — simulates slow storage (HDD / NFS / overloaded SSD)",
      [("mild", [("io_latency_ms", .int 100), ("operation", .str "all")]),
       ("moderate", [("io_latency_ms", .int 500), ("operation", .str "all")]),
       ("severe", [("io_latency_ms", .int 2000), ("operation", .str "all")])]⟩)]

/-- `SEVERITY_SLUGS`. -/
def severitySlugs : List (String × List (String × String)) :=
  [("packet_loss", [("mild", "10pct"), ("moderate", "40pct"), ("severe", "80pct")]),
   ("latency", [("mild", "100ms"), ("moderate", "500ms"), ("severe", "2s")]),
   ("bandwidth_throttle", [("mild", "10mbps"), ("moderate", "1mbps"), ("severe", "100kbps")]),
   ("packet_reorder", [("mild", "25pct"), ("moderate", "50pct"), ("severe", "75pct")]),
   ("connection_drop", [("mild", "10pct"), ("moderate", "40pct"), ("severe", "80pct")]),
   ("dns_latency", [("mild", "250ms"), ("moderate", "1s"), ("severe", "5s")]),
   ("container_restart", [("mild", "graceful"), ("moderate", "quick"), ("severe", "immediate")]),
   ("container_pause", [("mild", "30s"), ("moderate", "60s"), ("severe", "120s")]),
   ("cpu_stress", [("mild", "50pct"), ("moderate", "75pct"), ("severe", "95pct")]),
   ("memory_pressure", [("mild", "256mb"), ("moderate", "512mb"), ("severe", "1gb")]),
   ("disk_io", [("mild", "100ms"), ("moderate", "500ms"), ("severe", "2s")])]

/-- `SEVERITY_LABELS`. -/
def severityLabels : List (String × List (String × String)) :=
  [("packet_loss", [("mild", "10% packet loss"), ("moderate", "40% packet loss"),
      ("severe", "80% packet loss")]),
   ("latency", [("mild", "100 ms added latency"), ("moderate", "500 ms added latency"),
      ("severe", "2 s added latency")]),
   ("bandwidth_throttle", [("mild", "10 Mbps cap"), ("moderate", "1 Mbps cap"),
      ("severe", "100 kbps cap")]),
   ("packet_reorder", [("mild", "25% reorder"), ("moderate", "50% reorder"),
      ("severe", "75% reorder")]),
   ("connection_drop", [("mild", "10% TCP drop prob."), ("moderate", "40% TCP drop prob."),
      ("severe", "80% TCP drop prob.")]),
   ("dns_latency", [("mild", "250 ms DNS delay"), ("moderate", "1 s DNS delay"),
      ("severe", "5 s DNS delay / 30% fail")]),
   ("container_restart", [("mild", "graceful (30 s grace)"), ("moderate", "fast (5 s grace)"),
      ("severe", "immediate (0 s grace)")]),
   ("container_pause", [("mild", "30 s pause"), ("moderate", "60 s pause"),
      ("severe", "120 s pause")]),
   ("cpu_stress", [("mild", "50% CPU load"), ("moderate", "75% CPU load"),
      ("severe", "95% CPU load")]),
   ("memory_pressure", [("mild", "256 MB pressure"), ("moderate", "512 MB pressure"),
      ("severe", "1 GB pressure")]),
   ("disk_io", [("mild", "100 ms I/O delay"), ("moderate", "500 ms I/O delay"),
      ("severe", "2 s I/O delay")])]

/-- The selector of validator 1's Heimdall service in `TARGET_TIERS`. -/
def heimdall1 : Selector := ⟨"l2-cl-1-heimdall-v2-bor-validator", "target_heimdall"⟩

/-- The selector of validator 1's Bor service. -/
def bor1 : Selector := ⟨"l2-el-1-bor-heimdall-v2-validator", "target_bor"⟩

/-- The selector of every validator's Heimdall service. -/
def heimdallAll : Selector := ⟨"l2-cl-.*-heimdall-v2-bor-validator", "target_heimdall"⟩

/-- The selector of every validator's Bor service. -/
def borAll : Selector := ⟨"l2-el-.*-bor-heimdall-v2-validator", "target_bor"⟩

/-- `TARGET_TIERS`. -/
def targetTiers : List (String × TargetTier) :=
  [("validator1_heimdall", ⟨"validator 1 — Heimdall consensus layer only", [heimdall1]⟩),
   ("validator1_bor", ⟨"validator 1 — Bor execution layer only", [bor1]⟩),
   ("validator1_both",
      ⟨"validator 1 — Heimdall + Bor (both layers of one validator)", [heimdall1, bor1]⟩),
   ("all_heimdall", ⟨"all validators — Heimdall consensus layer (wildcard)", [heimdallAll]⟩),
   ("all_bor", ⟨"all validators — Bor execution layer (wildcard)", [borAll]⟩),
   ("all_both",
      ⟨"all validators — Heimdall + Bor both layers (wildcard)", [heimdallAll, borAll]⟩),
   ("rabbitmq", ⟨"RabbitMQ message broker (Heimdall event bus)",
      [⟨"l2-cl-.*-rabbitmq", "target_rabbitmq"⟩]⟩),
   ("rpc_nodes", ⟨"Bor RPC-only nodes (non-validator full nodes)",
      [⟨"l2-el-.*-bor-heimdall-v2-rpc", "target_rpc"⟩]⟩)]

/-- `SEVERITIES`. -/
def severities : List String := ["mild", "moderate", "severe"]

/-- `TIMING`. -/
def timing : List (String × Timing) :=
  [("mild", ⟨"3m", "30s", "30s"⟩), ("moderate", ⟨"5m", "60s", "60s"⟩),
   ("severe", ⟨"8m", "2m", "2m"⟩)]

/-- `INVARIANT_CRITERIA`. -/
def invariantCriteria : List Criterion :=
  [⟨"block_production_continues", "Network continues producing Bor blocks during the fault",
      "prometheus",
      "increase(chain_head_block\x7bjob=~\"l2-el-.*-bor-heimdall-v2-validator\"\x7d[1m])",
      "> 0", true⟩,
   ⟨"consensus_height_advances", "Heimdall consensus height continues to increase",
      "prometheus",
      "increase(cometbft_consensus_height\x7bjob=~\"l2-cl-.*-heimdall-v2-bor-validator\"\x7d[1m])",
      "> 0", true⟩,
   ⟨"bft_quorum_maintained",
      "At least 2/3 of validators remain online (topology-safe BFT quorum ratio)", "prometheus",
      "count(up\x7bjob=~\"l2-cl-.*-heimdall-v2-bor-validator\"\x7d == 1)" ++
        " / scalar(count(up\x7bjob=~\"l2-cl-.*-heimdall-v2-bor-validator\"\x7d))",
      ">= 0.67", true⟩]

/-- The tables as the script ships them. -/
def tables : Tables :=
  ⟨faultDefinitions, severitySlugs, severityLabels, targetTiers, severities, timing,
    invariantCriteria⟩

end ChaosScenarios.Config
