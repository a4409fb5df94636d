import ScreenFlow.Main
import ScreenFlow.Tour
import ScreenFlow.Log.Reporting
import ScreenFlow.Proofs.Assembly
import ScreenFlow.Proofs.Playback
import ScreenFlow.Proofs.Collision
import ScreenFlow.Proofs.Escape
import ScreenFlow.Proofs.Recovery
import ScreenFlow.Proofs.Writing
import ScreenFlow.Proofs.Contract
import ScreenFlow.Proofs.Route
import ScreenFlow.Proofs.Grammar
import ScreenFlow.Proofs.Precedence
import ScreenFlow.Proofs.Restoring
import ScreenFlow.Proofs.Nameless
import ScreenFlow.Proofs.Exchange
import ScreenFlow.Proofs.Exits
import ScreenFlow.Proofs.Redrawing
import ScreenFlow.Proofs.Accounting
import ScreenFlow.Proofs.Sending
import ScreenFlow.Proofs.Merging
import ScreenFlow.Proofs.Clashes
import ScreenFlow.Proofs.Verdict
import ScreenFlow.Proofs.Titles
import ScreenFlow.Proofs.Lookahead
import ScreenFlow.Proofs.Captions
import ScreenFlow.Proofs.Options
import ScreenFlow.Proofs.Restyling
import ScreenFlow.Proofs.Shortening
import ScreenFlow.Proofs.Declaring
import ScreenFlow.Proofs.Refusals
import ScreenFlow.Proofs.Blanks
import ScreenFlow.Proofs.Warnings
