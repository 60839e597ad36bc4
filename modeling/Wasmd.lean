import Wasmd.Lib.Effects
import Wasmd.Lib.ByteStore
import Wasmd.Lib.GasMeter
import Wasmd.Lib.Coins
import Wasmd.Lib.Recursion
import Wasmd.Lib.PrefixStore
import Wasmd.Lib.KeyedLog
import Wasmd.Lib.Index
import Wasmd.Lib.Utf8
import Wasmd.Types.Basic
import Wasmd.Types.Access
import Wasmd.Types.Keys
import Wasmd.Types.Contract
import Wasmd.Types.PortID
import Wasmd.Types.Messages
import Wasmd.Types.AccessOrder
import Wasmd.Types.GasRegister
import Wasmd.Types.Genesis
import Wasmd.Types.Authz
import Wasmd.Types.AuthzBudget
import Wasmd.Types.AuthzSelection
import Wasmd.Types.AuthzStore
import Wasmd.Keeper.Gas
import Wasmd.Keeper.Ante
import Wasmd.Keeper.Dispatch
import Wasmd.Keeper.DispatchFold
import Wasmd.Keeper.DispatchGas
import Wasmd.Keeper.DispatchTree
import Wasmd.Keeper.DispatchLocal
import Wasmd.Keeper.DispatchEvents
import Wasmd.Keeper.State
import Wasmd.Keeper.Store
import Wasmd.Keeper.Histories
import Wasmd.Keeper.Vm
import Wasmd.Keeper.Isolation
import Wasmd.Keeper.Entry
import Wasmd.Keeper.VmGas
import Wasmd.Keeper.Queries
import Wasmd.Keeper.SetupCost
import Wasmd.Keeper.Manage
import Wasmd.Keeper.MsgServer
import Wasmd.Keeper.Frame
import Wasmd.Keeper.Outcome
import Wasmd.Keeper.Pins
import Wasmd.Keeper.Change
import Wasmd.Keeper.CodeSequence
import Wasmd.Keeper.Calls
import Wasmd.Keeper.EntryCalls
import Wasmd.Keeper.AccessCeiling
import Wasmd.Keeper.Privilege
import Wasmd.Keeper.Ports
import Wasmd.Keeper.PortAgreement
import Wasmd.Keeper.IBCHandler
import Wasmd.Keeper.Recursion
import Wasmd.Keeper.EventOrigin
import Wasmd.Keeper.Events
import Wasmd.Keeper.Registry
import Wasmd.Keeper.Runs
import Wasmd.Keeper.Genesis
import Wasmd.Keeper.Migration
import Wasmd.Keeper.Snapshot
import Wasmd.Keeper.IndexOrder
import Wasmd.Keeper.Import
import Wasmd.Keeper.Codes
import Wasmd.Keeper.Addresses
import Wasmd.Keeper.RoundTrip
import Wasmd.Keeper.Exportable
import Wasmd.Keeper.ImportRuns
import Wasmd.Keeper.GenesisRoundTrip
import Wasmd.Keeper.StoredParams
import Wasmd.Keeper.Redaction
import Wasmd.Lib.Handoff
import Wasmd.Keeper.AsyncAck
import Wasmd.Lib.Reader
import Wasmd.Ioutils
import Wasmd.Keeper.EventCosts
import Wasmd.Keeper.RawRange
import Wasmd.Types.CosmosMsg
import Wasmd.Keeper.Encoders
import Wasmd.Keeper.HandlerChain
import Wasmd.Keeper.AckOwnership
import Wasmd.Lib.Hex
import Wasmd.Keeper.BuildAddress
import Wasmd.Keeper.UploadAccess
import Wasmd.Keeper.QueryGas
import Wasmd.Lib.CoinSum
import Wasmd.Lib.TrimSpace
import Wasmd.Lib.Triples
import Wasmd.Keeper.Conversions
import Wasmd.Lib.Ownership
import Wasmd.Keeper.AccessControl
import Wasmd.Keeper.ValidRecords
import Wasmd.Types.Proposals
import Wasmd.Keeper.Proposals
import Wasmd.Keeper.IBCModule
import Wasmd.Keeper.ModuleRuns
