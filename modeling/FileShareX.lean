import FileShareX.Foundation.BigEndian
import FileShareX.Foundation.Reader
import FileShareX.Foundation.Simulation
import FileShareX.Foundation.Text
import FileShareX.Foundation.Utf8
import FileShareX.Foundation.Delivery
import FileShareX.Foundation.EraseLoop
import FileShareX.Foundation.Pieces
import FileShareX.Foundation.Scan
import FileShareX.Foundation.Path
import FileShareX.Foundation.Files
import FileShareX.Protocol.Message
import FileShareX.Protocol.AuthMessages
import FileShareX.Protocol.OnlineMessages
import FileShareX.Protocol.FileMessages
import FileShareX.Protocol.Bounds
import FileShareX.Foundation.Framing
import FileShareX.Net.ReadLoop
import FileShareX.Gateway.Calls
import FileShareX.Gateway.CoreClient
import FileShareX.Gateway.AuthPayload
import FileShareX.Gateway.Provenance
import FileShareX.Gateway.Responses
import FileShareX.Gateway.ResponseAgreement
import FileShareX.Gateway.OnlineList
import FileShareX.Gateway.Exchange
import FileShareX.Gateway.Routes
import FileShareX.Gateway.SharedAccounts
import FileShareX.Gateway.UserSessions
import FileShareX.Gateway.Segmentation
import FileShareX.Gateway.SessionOwnership
import FileShareX.Gateway.PasswordReset
import FileShareX.Gateway.ResetTokens
import FileShareX.Auth.StoredPassword
import FileShareX.Net.Framing
import FileShareX.Transfer.ChunkSequence
import FileShareX.Transfer.TransferManager
import FileShareX.Transfer.Upload
import FileShareX.Storage.FileStore
import FileShareX.Net.SessionManager
import FileShareX.Auth.PasswordHash
import FileShareX.Auth.HexFields
import FileShareX.Net.Accounts
import FileShareX.Net.SessionRepository
import FileShareX.Net.AuthHandler
import FileShareX.Net.TcpSession
import FileShareX.Net.Requests
import FileShareX.Foundation.Transition
import FileShareX.Net.Server
import FileShareX.Net.Uploads
import FileShareX.Net.WriteQueue
import FileShareX.Net.Registry
import FileShareX.Net.StreamOwnership
import FileShareX.Net.TerminalStates
import FileShareX.Storage.Placement
import FileShareX.Net.Confinement
import FileShareX.Net.StreamPlacement
import FileShareX.Net.StreamLeaks
import FileShareX.Net.PartFile
import FileShareX.Net.Completion
import FileShareX.Net.Footprint
import FileShareX.Net.Lifetime
import FileShareX.Gateway.Presence
import FileShareX.Gateway.MailedTokens
import FileShareX.Net.Parties
import FileShareX.Net.Restart
import FileShareX.Protocol.Grammar
import FileShareX.Protocol.RoundTrip
import FileShareX.Net.Routing
import FileShareX.Net.Replies
import FileShareX.Net.Online
import FileShareX.Net.Provenance
import FileShareX.Net.Credentials
import FileShareX.Net.Dialogue
import FileShareX.Net.Encoding
import FileShareX.Net.Registration
import FileShareX.Net.Offline
import FileShareX.Net.Purging
import FileShareX.Net.Notifications
import FileShareX.Client.AuthResponse
import FileShareX.Client.FileTransfer
import FileShareX.Client.Chunking
import FileShareX.Client.Completion
import FileShareX.Client.Network
import FileShareX.Client.Posted
import FileShareX.Client.Agreement
import FileShareX.Client.Sockets
import FileShareX.Client.Outcome
import FileShareX.Client.Delivery
import FileShareX.Client.Conformance
