import AnalysisDesk.Desk.Session
import AnalysisDesk.Main
import AnalysisDesk.Proofs.Desk.Accounts
import AnalysisDesk.Proofs.Desk.Bindings
import AnalysisDesk.Proofs.Desk.Confirmation
import AnalysisDesk.Proofs.Desk.Delivery
import AnalysisDesk.Proofs.Desk.Display
import AnalysisDesk.Proofs.Desk.Drain
import AnalysisDesk.Proofs.Desk.ErrorReply
import AnalysisDesk.Proofs.Desk.Keyboard
import AnalysisDesk.Proofs.Desk.Lines
import AnalysisDesk.Proofs.Desk.Reread
import AnalysisDesk.Proofs.Desk.SessionTraffic
import AnalysisDesk.Proofs.Desk.Waiting
import AnalysisDesk.Proofs.Desk.Work
import AnalysisDesk.Proofs.Editor.Clipboard
import AnalysisDesk.Proofs.Editor.Refinement
import AnalysisDesk.Proofs.Editor.Viewport
import AnalysisDesk.Proofs.Editor.WellFormed
import AnalysisDesk.Proofs.Json.Canonical
import AnalysisDesk.Proofs.Screen.Cursor
import AnalysisDesk.Proofs.Screen.Panels
import AnalysisDesk.Proofs.Screen.Source
import AnalysisDesk.Proofs.Screen.Views
import AnalysisDesk.Proofs.Service.Deciding
import AnalysisDesk.Proofs.Service.Decoding
import AnalysisDesk.Proofs.Service.Endpoint
import AnalysisDesk.Proofs.Service.Record
import AnalysisDesk.Proofs.Service.Sending
import AnalysisDesk.Proofs.Settings.Priority
import AnalysisDesk.Proofs.Text.Trim
import AnalysisDesk.Screen.Picture
import AnalysisDesk.Proofs.Desk.Scrolling
import AnalysisDesk.Proofs.Editor.Boundary
import AnalysisDesk.Proofs.Service.Conversation
