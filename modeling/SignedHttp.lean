import SignedHttp.Calendar.Inverse
import SignedHttp.Main
import SignedHttp.Session
import SignedHttp.Text.Utf8.Lemmas
import SignedHttp.Proofs.Text.Base64
import SignedHttp.Proofs.Text.Ascii
import SignedHttp.Proofs.Events
import SignedHttp.Proofs.Text.Utf8
import SignedHttp.Proofs.Fields
import SignedHttp.Proofs.Fields.History
import SignedHttp.Proofs.Text.Element
import SignedHttp.Proofs.Signing
import SignedHttp.Proofs.Hooks.Attach
import SignedHttp.Proofs.Hooks.Failure
import SignedHttp.Proofs.Hooks.Agreement
import SignedHttp.Proofs.Hooks.Verification
import SignedHttp.Proofs.Hooks.Presence
import SignedHttp.Proofs.Tally
import SignedHttp.Proofs.Sessions.Calls
import SignedHttp.Proofs.Sessions.Names
import SignedHttp.Proofs.Sessions.Accounts
import SignedHttp.Proofs.Secrets.Fields
import SignedHttp.Proofs.Secrets.Signing
import SignedHttp.Proofs.Sessions.Secrecy
import SignedHttp.Proofs.Sessions.Levels
import SignedHttp.Proofs.Sessions.Agreement
import SignedHttp.Proofs.Sessions.Refusals
import SignedHttp.Proofs.Log.Line
import SignedHttp.Proofs.Sessions.Fixed
import SignedHttp.Proofs.Sessions.Orders
import SignedHttp.Proofs.Sessions.Chosen
import SignedHttp.Proofs.Settings.Unrelated
import SignedHttp.Proofs.Text.WellFormed
import SignedHttp.Proofs.Signing.Encodings
import SignedHttp.Proofs.Signing.Binding
import SignedHttp.Proofs.Settings.Assignments
import SignedHttp.Proofs.Settings.Resolution
import SignedHttp.Proofs.Settings.Quoting
import SignedHttp.Proofs.Settings.Ways
import SignedHttp.Proofs.Text.Occurrence
import SignedHttp.Proofs.Signing.Stripping
import SignedHttp.Proofs.Signing.Recoding
import SignedHttp.Proofs.Signing.Repeated
import SignedHttp.Proofs.CommandLine
import SignedHttp.Proofs.Sessions.Times
import SignedHttp.Proofs.Log.Stamps
