import CoreLib.Foundation.Runs
import CoreLib.Foundation.BitSmear
import CoreLib.Foundation.LittleEndian
import CoreLib.System
import CoreLib.Message
import CoreLib.MessageCodec
import CoreLib.MessageReserve
import CoreLib.MessageCursors
import CoreLib.MessageTiling
import CoreLib.ControlMessage
import CoreLib.Socket
import CoreLib.Foundation.Ledger
import CoreLib.Channel
import CoreLib.Delivery
import CoreLib.DeliveryLedger
import CoreLib.DeliveryGuarantees
import CoreLib.WaitSet
import CoreLib.Looper
import CoreLib.LooperTermination
import CoreLib.LooperStartup
import CoreLib.Duplex
import CoreLib.Foundation.Registry
import CoreLib.Epoll
import CoreLib.ChannelRegistration
import CoreLib.WaitSetBackends
import CoreLib.ChannelLifecycle
import CoreLib.ChannelLifecycleInvariant
import CoreLib.Foundation.HandleTable
import CoreLib.Foundation.NameSpace
import CoreLib.Foundation.Custody
import CoreLib.SharedMemoryBacking
import CoreLib.SharedMemory
import CoreLib.SharedMemoryAccounts
import CoreLib.SocketOwnership
import CoreLib.Foundation.Loop
import CoreLib.Server
import CoreLib.ServerEndpoints
import CoreLib.ChannelDispatch
import CoreLib.WaitSetPlatforms
import CoreLib.LooperDispatch
import CoreLib.MessageOperations
import CoreLib.MessageAttachments
import CoreLib.MessageGrowth
import CoreLib.SocketAddress
import CoreLib.Rendezvous
import CoreLib.RendezvousEndpoints
import CoreLib.RendezvousInvariant
import CoreLib.RendezvousGuarantees
import CoreLib.RendezvousDelivery
import CoreLib.SourceLifetime
import CoreLib.SourceLifetimeAccounts
import CoreLib.SourceLifetimeReferences
import CoreLib.SourceLifetimeRegistrations
import CoreLib.SourceLifetimeInvariant
import CoreLib.SourceLifetimeGuarantees
import CoreLib.Conversation
import CoreLib.ChannelCollection
import CoreLib.ChannelCollectionInvariant
import CoreLib.ChannelCollectionGuarantees
import CoreLib.SourceLifetimeHolders
import CoreLib.LooperThreads
import CoreLib.LooperThreadsGuarantees
import CoreLib.Timer
import CoreLib.Foundation.Rotation
import CoreLib.LooperFairness
import CoreLib.ChannelLooper
import CoreLib.ChannelLooperGuarantees
