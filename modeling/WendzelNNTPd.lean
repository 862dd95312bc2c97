import WendzelNNTPd.Lib.Pool
import WendzelNNTPd.Lib.Regex
import WendzelNNTPd.Database.Store
import WendzelNNTPd.Server.Session
import WendzelNNTPd.Server.Text
import WendzelNNTPd.Database.Escaping
import WendzelNNTPd.Database.Sqlite3
import WendzelNNTPd.Server.Commands
import WendzelNNTPd.Server.DoCommand
import WendzelNNTPd.Admin.Effects
import WendzelNNTPd.Lib.Handler
import WendzelNNTPd.Posting.ReceiveLoop
import WendzelNNTPd.Admin.AclIntegrity
import WendzelNNTPd.Access.Frames
import WendzelNNTPd.Access.Groups
import WendzelNNTPd.Access.Dispatch
import WendzelNNTPd.Access.Authentication
import WendzelNNTPd.Access.SelectedGroup
import WendzelNNTPd.Access.Login
import WendzelNNTPd.Lib.SqlLiteral
import WendzelNNTPd.Posting.InsertText
import WendzelNNTPd.Posting.Alone
import WendzelNNTPd.Posting.AllOrNothing
import WendzelNNTPd.Posting.Numbering
import WendzelNNTPd.Posting.Client
import WendzelNNTPd.Posting.CommonGroup
import WendzelNNTPd.Posting.MessageIds
import WendzelNNTPd.Admin.Backends
import WendzelNNTPd.Admin.BackendAgreement
import WendzelNNTPd.Posting.DeletedGroup
import WendzelNNTPd.Posting.WriteAccess
import WendzelNNTPd.Database.SqlServers
import WendzelNNTPd.Server.Backends
import WendzelNNTPd.Access.Errors
import WendzelNNTPd.Lib.TwoRuns
import WendzelNNTPd.Access.Blind
import WendzelNNTPd.Access.TlsSwitch
import WendzelNNTPd.Posting.Overview
import WendzelNNTPd.Posting.HeaderValues
import WendzelNNTPd.Startup.InDatabase
import WendzelNNTPd.Startup.TlsContexts
import WendzelNNTPd.Startup.Ports
import WendzelNNTPd.Server.ConfigFile
import WendzelNNTPd.Access.Untouched
import WendzelNNTPd.Access.DateFlag
import WendzelNNTPd.Access.XhdrHistory
import WendzelNNTPd.Reading.ArticleRange
import WendzelNNTPd.Admin.DeleteGroup
import WendzelNNTPd.Admin.PostingFlag
import WendzelNNTPd.Reading.GroupSelection
import WendzelNNTPd.Lib.Demonic
import WendzelNNTPd.Access.OneReply
import WendzelNNTPd.Posting.Lookups
import WendzelNNTPd.Posting.MaxPostSize
import WendzelNNTPd.Posting.HeaderGrammar
import WendzelNNTPd.Server.CommandLoop
import WendzelNNTPd.Access.CommandLines
import WendzelNNTPd.Access.PasswordGuard
import WendzelNNTPd.Posting.OverviewCounts
import WendzelNNTPd.Lib.Words
import WendzelNNTPd.Access.Arguments
import WendzelNNTPd.Lib.Allocation
import WendzelNNTPd.Posting.RemovalBounds
import WendzelNNTPd.Posting.StatementSize
import WendzelNNTPd.Access.Queries
import WendzelNNTPd.Lib.RelyGuarantee
import WendzelNNTPd.Posting.Together
import WendzelNNTPd.Posting.RoundTrip
import WendzelNNTPd.Reading.Advertised
import WendzelNNTPd.Reading.Listing
import WendzelNNTPd.Access.Hidden
import WendzelNNTPd.Lib.Boards
import WendzelNNTPd.Lib.Refinement
import WendzelNNTPd.Reading.Archive
import WendzelNNTPd.Reading.Reader
import WendzelNNTPd.Admin.Rights
import WendzelNNTPd.Lib.Scanner
import WendzelNNTPd.Startup.Layout
import WendzelNNTPd.Lib.Register
