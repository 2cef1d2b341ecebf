import ChaosScenarios.Greedy.Reference
import ChaosScenarios.Greedy.Gains
import ChaosScenarios.Listing
import ChaosScenarios.Rerun
import ChaosScenarios.Enclave
