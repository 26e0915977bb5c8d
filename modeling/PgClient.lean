import PgClient.Config.Environment
import PgClient.Conn.Startup
import PgClient.Cursor.Rows
import PgClient.Dialogue
import PgClient.Wire.Pieces
import PgClient.Proofs.Conn.Intake
import PgClient.Proofs.Conn.Settled
import PgClient.Proofs.Exchange.Orderly
import PgClient.Proofs.Session.Tidy
import PgClient.Proofs.Client.BetweenCalls
import PgClient.Proofs.Conn.Effect
import PgClient.Proofs.Conn.Traffic
import PgClient.Proofs.Conn.Serving
import PgClient.Proofs.Conn.Attribution
import PgClient.Proofs.Conn.Gist
import PgClient.Proofs.Conn.Pieces
import PgClient.Proofs.Result.Layout
import PgClient.Proofs.Text.Decimal
import PgClient.Proofs.Wire.Report
import PgClient.Proofs.Conn.Responses
import PgClient.Proofs.Conn.Course
import PgClient.Proofs.Wire.Guarded
import PgClient.Proofs.Result.Guarded
import PgClient.Proofs.Conn.Guarded
import PgClient.Proofs.Wire.Outgoing
import PgClient.Proofs.Conn.Conversation
import PgClient.Proofs.Conn.Filled
import PgClient.Proofs.Conn.Ledger
import PgClient.Proofs.Conn.Departure
import PgClient.Proofs.Conn.Answering
import PgClient.Proofs.Exchange.Conclusion
import PgClient.Proofs.Exchange.Gathered
import PgClient.Proofs.Exchange.View
import PgClient.Proofs.Exchange.Observed
import PgClient.Proofs.Cursor.Granted
import PgClient.Proofs.Cursor.Lifecycle
import PgClient.Proofs.Cursor.Heeded
import PgClient.Proofs.Cursor.Uses
import PgClient.Proofs.Client.Flavours
import PgClient.Proofs.Conn.Arriving
import PgClient.Proofs.Conn.Grammar
import PgClient.Proofs.Conn.Admission
import PgClient.Proofs.Conn.Proven
import PgClient.Proofs.Client.Autocommit
import PgClient.Proofs.Client.Transactions
import PgClient.Proofs.Wire.Content
import PgClient.Proofs.Conn.Transcript
import PgClient.Proofs.Client.Closed
import PgClient.Proofs.Conn.Essence
import PgClient.Proofs.Conn.Undisturbed
import PgClient.Proofs.Exchange.Beside
import PgClient.Proofs.Conn.Refusal
import PgClient.Proofs.Exchange.Regime
import PgClient.Proofs.Session.Lost
import PgClient.Proofs.Client.Lost
import PgClient.Proofs.Cursor.Bound
import PgClient.Proofs.Client.Bound
import PgClient.Proofs.Client.Outlived
import PgClient.Proofs.Cursor.Fetched
import PgClient.Proofs.Session.Answered
import PgClient.Proofs.Cursor.Iteration
import PgClient.Proofs.Client.Iterated
import PgClient.Proofs.Text.Base64
import PgClient.Proofs.Auth.Agreement
import PgClient.Proofs.Session.Granted
import PgClient.Proofs.Client.Committed
import PgClient.Proofs.Client.Passage
import PgClient.Proofs.Client.Released
import PgClient.Proofs.Exchange.CutOff
import PgClient.Proofs.Result.Exact
import PgClient.Proofs.Wire.Verbatim
import PgClient.Proofs.Cursor.Closing
import PgClient.Proofs.Session.Abreast
import PgClient.Proofs.Cursor.Remembered
import PgClient.Proofs.Cursor.Lazy
import PgClient.Proofs.Cursor.Spelled
import PgClient.Proofs.Conn.Standing
import PgClient.Proofs.Conn.Beginning
import PgClient.Proofs.Conn.Deadline
import PgClient.Proofs.Client.Position
import PgClient.Proofs.Value.ReadBack
import PgClient.Proofs.Config.Exact
import PgClient.Proofs.Config.Precedence
import PgClient.Proofs.Conn.Cells
import PgClient.Proofs.Conn.Aftermath
import PgClient.Proofs.Exchange.Unwritten
import PgClient.Proofs.Wire.Counted
import PgClient.Proofs.Exchange.Spent
