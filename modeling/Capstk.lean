import Capstk.Lib.Prog
import Capstk.Lib.Run
import Capstk.Lib.StringMap
import Capstk.Lib.Netip
import Capstk.Lib.Thread
import Capstk.Lib.Interference
import Capstk.Errors
import Capstk.Tags
import Capstk.Api
import Capstk.Conditions
import Capstk.Cloud
import Capstk.Session
import Capstk.Client
import Capstk.SdkClient
import Capstk.Scope
import Capstk.Services
import Capstk.MachineReconciler
import Capstk.ClusterReconciler
import Capstk.Cleanup
import Capstk.Stepwise
import Capstk.Webhook
import Capstk.Schema
import Capstk.Proofs.Webhook
import Capstk.Proofs.Requests
import Capstk.Proofs.Resources
import Capstk.Proofs.Servers
import Capstk.Proofs.Bastion
import Capstk.Proofs.Answered
import Capstk.Proofs.BastionPass
import Capstk.Proofs.BastionUnique
import Capstk.Proofs.BastionDisabled
import Capstk.Proofs.LoadBalancers
import Capstk.Proofs.Pass
import Capstk.Proofs.ClusterRules
import Capstk.Proofs.ClusterFrame
import Capstk.Proofs.ClusterPass
import Capstk.Proofs.ClusterRun
import Capstk.Proofs.ClusterCleanup
import Capstk.Proofs.ClusterDelete
import Capstk.Proofs.MachineRules
import Capstk.Proofs.MachinePass
import Capstk.Proofs.MachineRun
import Capstk.Proofs.Creations
import Capstk.Proofs.Readiness
import Capstk.Proofs.Retry
import Capstk.Proofs.LoadBalancerLabels
import Capstk.Proofs.Freshness
import Capstk.Proofs.Roles
import Capstk.Proofs.Addresses
import Capstk.Proofs.ProviderID
import Capstk.Proofs.NodeSSH
import Capstk.Proofs.MachineLabels
import Capstk.Proofs.NetworkTrace
import Capstk.Proofs.CloudInit
import Capstk.Proofs.Sweep
import Capstk.Proofs.TargetPools
import Capstk.Proofs.TargetPoolRun
import Capstk.Proofs.NodeSSHRace
import Capstk.Proofs.MachineReadiness
import Capstk.Proofs.SetReady
import Capstk.Proofs.ClusterUsable
import Capstk.Proofs.FailureDomains
import Capstk.Proofs.Endpoint
import Capstk.Watches
import Capstk.MachineWatches
import Capstk.ApiServer
import Capstk.Proofs.Watches
import Capstk.Proofs.BastionRules
import Capstk.Proofs.BastionAttempts
import Capstk.Proofs.BastionAttachment
import Capstk.Proofs.Repeats
import Capstk.Proofs.BastionFixpoint
import Capstk.Proofs.ClusterFixpoint
import Capstk.Proofs.ClusterSettled
import Capstk.Proofs.MachineFixpoint
import Capstk.Proofs.Fixpoint
import Capstk.Proofs.Targets
import Capstk.Proofs.TargetUpdates
import Capstk.Proofs.TargetNames
import Capstk.Proofs.Generations
import Capstk.Proofs.Authority
import Capstk.Proofs.Confined
import Capstk.Proofs.ClusterRecord
import Capstk.Proofs.Tenancy
import Capstk.Proofs.Isolation
import Capstk.Proofs.MachineProgress
import Capstk.Proofs.Wakeups
import Capstk.Proofs.Schema
import Capstk.Proofs.ClusterWrites
import Capstk.Proofs.ClusterAdmission
import Capstk.Proofs.MachineAdmission
import Capstk.Proofs.Sole
import Capstk.Proofs.ClusterFinish
import Capstk.Proofs.ClusterProgress
