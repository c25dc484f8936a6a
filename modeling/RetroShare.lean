import RetroShare.Pqi.Bounded
import RetroShare.Pqi.Framing
import RetroShare.Serialiser.Progress
import RetroShare.Ft.Budget
import RetroShare.Ft.Checking
import RetroShare.Gxs.Addressee
import RetroShare.GRouter.Delivery
import RetroShare.GRouter.Notices
import RetroShare.GRouter.Pipes
import RetroShare.IpFilter.Exactness
import RetroShare.IpFilter.Friends
import RetroShare.Search.Rebuild
import RetroShare.Turtle.Hijack
import RetroShare.Turtle.Monitoring
import RetroShare.Turtle.Services
import RetroShare.Turtle.Tables
import RetroShare.Gxs.GroupAccess
import RetroShare.Gxs.Vetting
import RetroShare.Gxs.Waiting
import RetroShare.Chat.Echoes
import RetroShare.Chat.Splitting
import RetroShare.Gxs.ReadBack
import RetroShare.Dht.Attempts
import RetroShare.GRouter.Clues
import RetroShare.Util.Eviction
import RetroShare.Util.LiveBlocks
import RetroShare.Gxs.Opinions
import RetroShare.Msg.Distant
import RetroShare.Msg.Mails
import RetroShare.Dsdv.Loops
import RetroShare.Ft.ActiveLimit
import RetroShare.TcpOnUdp.Transparency
import RetroShare.GenExchange.Authorisation
import RetroShare.GenExchange.Forgery
import RetroShare.GenExchange.Authenticity
import RetroShare.GenExchange.GroupDisposal
import RetroShare.Pqi.Rates
import RetroShare.Services.Agreement
import RetroShare.Services.Monitors
import RetroShare.GenExchange.GroupVersions
import RetroShare.Dht.Ordering
import RetroShare.Ft.SourceMaps
import RetroShare.Ft.Writes
import RetroShare.TcpOnUdp.Acknowledged
import RetroShare.Dht.Bencode
import RetroShare.Dht.ClosestPeers
import RetroShare.Dsdv.Upkeep
import RetroShare.Gxs.Related
import RetroShare.IpFilter.Subsumption
import RetroShare.Pqi.History
import RetroShare.Util.Radix64
import RetroShare.Ft.Serving
import RetroShare.Ft.ReservedSlots
import RetroShare.GRouter.Saving
import RetroShare.Ft.Survival
import RetroShare.Gxs.MetaData
import RetroShare.Dht.NearestPeers
