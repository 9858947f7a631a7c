import IpcActors.SubnetId
import IpcActors.Runtime
import IpcActors.TreePath
import IpcActors.Gateway.Types
import IpcActors.Gateway.State
import IpcActors.Gateway.Actor
import IpcActors.Gateway.Step
import IpcActors.Gateway.Frame
import IpcActors.Gateway.Registry
import IpcActors.Gateway.Postbox
import IpcActors.Gateway.Nonce
import IpcActors.Gateway.Checkpoint
import IpcActors.Gateway.Funds
import IpcActors.Gateway.Routing
import IpcActors.Gateway.Entry
import IpcActors.Gateway.Window
import IpcActors.Gateway.Tokens
import IpcActors.SubnetActor.State
import IpcActors.SubnetActor.Actor
import IpcActors.SubnetActor.Votes
import IpcActors.SubnetActor.Book
import IpcActors.Joint.Step
import IpcActors.Joint.Ledger
import IpcActors.Joint.Protocol
import IpcActors.Joint.Compose
import IpcActors.Joint.Checkpointing
import IpcActors.Joint.Payees
