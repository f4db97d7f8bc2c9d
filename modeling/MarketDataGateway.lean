import MarketDataGateway.Runtime.Integrity
import MarketDataGateway.Runtime.Bootstrap
import MarketDataGateway.Service.Contexts
import MarketDataGateway.Transport.StopCut
import MarketDataGateway.Transport.Cancellation
import MarketDataGateway.Recovery.Rotation
import MarketDataGateway.Recovery.Waits
import MarketDataGateway.Product.Publishing
import MarketDataGateway.Status.Freshness
import MarketDataGateway.Config.Loopback
import MarketDataGateway.Config.Validation
import MarketDataGateway.Protocol.Positive
import MarketDataGateway.Routing.Guarantees
import MarketDataGateway.Daemon.Diagnostics
import MarketDataGateway.Daemon.Configuration
import MarketDataGateway.Product.Channels
import MarketDataGateway.Production.Guarantees
import MarketDataGateway.Service.Guarantees
import MarketDataGateway.Runtime.Order
