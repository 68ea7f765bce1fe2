import WalletPair.Lib.Program
import WalletPair.Lib.Run
import WalletPair.Lib.OrderedMap
import WalletPair.Lib.Journal
import WalletPair.Lib.Ledger
import WalletPair.Sdk.Json
import WalletPair.Sdk.Codec
import WalletPair.Sdk.Crypto
import WalletPair.Sdk.Protocol
import WalletPair.Sdk.DApp.State
import WalletPair.Sdk.DApp.Session
import WalletPair.Sdk.DApp.Loop
import WalletPair.Sdk.DApp.Moves
import WalletPair.Sdk.Wallet.State
import WalletPair.Sdk.Wallet.Session
import WalletPair.Sdk.Wallet.Loop
import WalletPair.Sdk.Wallet.Moves
import WalletPair.Sdk.Numbering
import WalletPair.Sdk.PairingRuns
import WalletPair.Sdk.DApp.PeerPinning
import WalletPair.Sdk.DApp.Receiving
import WalletPair.Sdk.Wallet.Receiving
import WalletPair.Sdk.DApp.Replay
import WalletPair.Sdk.Wallet.Replay
import WalletPair.Sdk.DApp.RefusedJoin
import WalletPair.Sdk.Wallet.Refusals
import WalletPair.Sdk.DApp.Stale
import WalletPair.Sdk.Handshake
import WalletPair.Sdk.Wallet.Joining
import WalletPair.Sdk.PairingUri
import WalletPair.Sdk.DApp.Hosting
import WalletPair.Sdk.KeyAgreement
import WalletPair.Relay.Protocol
import WalletPair.Relay.Worker.State
import WalletPair.Relay.Worker.Channel
import WalletPair.Relay.Worker.Handlers
import WalletPair.Relay.Worker.StaleSockets
import WalletPair.Relay.Worker.Routing
import WalletPair.Relay.Worker.Hibernation
import WalletPair.Relay.Server.Handlers
import WalletPair.Relay.Server.Persist
import WalletPair.Relay.Server.Store
import WalletPair.Relay.Server.Messages
import WalletPair.Relay.Server.Session
import WalletPair.Relay.Server.Isolation
import WalletPair.Relay.Server.Registration
import WalletPair.Relay.Server.Roles
import WalletPair.Relay.Server.Counters
import WalletPair.Relay.Server.Capacity
import WalletPair.Relay.Server.Joins
import WalletPair.Relay.Server.Gaps
import WalletPair.Lib.Window
import WalletPair.Relay.Server.RateLimit
import WalletPair.Relay.Server.Restart
import WalletPair.Sdk.Atomicity
import WalletPair.Extension.Background
import WalletPair.Extension.SingleSession
import WalletPair.Extension.FinalDisconnect
import WalletPair.Extension.Lifetime
import WalletPair.Relay.JsonText
import WalletPair.Relay.Language
import WalletPair.Relay.Agreement
import WalletPair.Sdk.Expiry
import WalletPair.Sdk.DApp.Lifetime
import WalletPair.Sdk.Wallet.Lifetime
import WalletPair.Sdk.DApp.Forgery
import WalletPair.Sdk.JsonNormal
import WalletPair.Sdk.Sealing
import WalletPair.Sdk.Payloads
import WalletPair.Sdk.EventPayloads
import WalletPair.Sdk.NewPairing
import WalletPair.Lib.Turns
import WalletPair.Sdk.SendOrder
import WalletPair.Lib.Slots
import WalletPair.Sdk.DApp.PendingCap
import WalletPair.Evm.Provider
import WalletPair.Evm.ChainConsistency
import WalletPair.Evm.Arguments
import WalletPair.Evm.Signing
import WalletPair.Sdk.Transport
import WalletPair.Sdk.StaleTransport
import WalletPair.Sdk.RawText
import WalletPair.Sdk.PairingRoundTrip
import WalletPair.Sdk.DApp.Link
import WalletPair.Sdk.ChannelHint
import WalletPair.Sdk.DApp.SendResults
import WalletPair.Sdk.SendResults
import WalletPair.Lib.Recency
import WalletPair.Sdk.Wallet.Caches
import WalletPair.Sdk.ResponseCaches
import WalletPair.Relay.Server.SlidingWindow
import WalletPair.Sdk.Base64
import WalletPair.Relay.Worker.PeerKeys
import WalletPair.Sdk.Transcript
import WalletPair.Lib.PromiseLock
import WalletPair.Lib.PromiseRecord
import WalletPair.Extension.ActivityLog
import WalletPair.Extension.Permissions
import WalletPair.Evm.ProviderEvents
import WalletPair.Evm.ChainIds
import WalletPair.Sdk.DApp.Steps
import WalletPair.Evm.Attached
import WalletPair.Extension.Requests
import WalletPair.Extension.Probing
import WalletPair.Extension.RequestRuns
import WalletPair.Extension.PairingFlag
import WalletPair.Extension.DeferredRequests
import WalletPair.Sdk.Delivery
import WalletPair.Sdk.Correlation
