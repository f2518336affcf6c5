import RallyCI.AsyncSSHRun
import RallyCI.PyFloat
import RallyCI.VirshStorage
import RallyCI.VirshVM
import RallyCI.VirshBuildImage
import RallyCI.VirshImageLocks
import RallyCI.VirshProvider
import RallyCI.PeriodicTask
import RallyCI.VirshBuildRuns
import RallyCI.VirshBackends
import RallyCI.VirshGetIp
import RallyCI.VirshRunScript
import RallyCI.VirshDomain
import RallyCI.Config
import RallyCI.ConfigLogging
import RallyCI.ConfigModules
import RallyCI.VirshBoot
import RallyCI.VirshMetadata
import RallyCI.VirshProgress
import RallyCI.VirshLiveness
