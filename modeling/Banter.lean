import Banter.Text.Alphanumeric
import Banter.Text.Case.Uppercase
import Banter.Text.Lower
import Banter.Text.Mention
import Banter.Text.Printable
import Banter.Text.Roleplay
import Banter.Text.Segment
import Banter.Json.Reader
import Banter.Json.Writer
import Banter.Json.Display
import Banter.Gate
import Banter.Selection
import Banter.Delivery.Desk
import Banter.Activity.Command
import Banter.Emote
import Banter.Url.Parser
import Banter.Reply.Reply
import Banter.Request
import Banter.ChatEvent
import Banter.Session
import Banter.Rehearsal
import Banter.Session.Command
import Banter.Program
import Banter.Main
import Banter.Url.Character.Symbol
import Banter.Proofs.Reply.Absorption
import Banter.Proofs.Activity.Ledger
import Banter.Proofs.Delivery.Queue
import Banter.Proofs.Delivery.Passage
import Banter.Proofs.Delivery.Order
import Banter.Proofs.Delivery.Overlap
import Banter.Proofs.Delivery.Pacing
import Banter.Proofs.Session.Frame
import Banter.Proofs.Session.Passage
import Banter.Proofs.Session.Conservation
import Banter.Proofs.Session.Guard
import Banter.Proofs.Console.Printing
import Banter.Proofs.Console.Parsing
import Banter.Proofs.Program.Farewell
import Banter.Proofs.Json.Numeral
import Banter.Proofs.Json.Spelling
import Banter.Proofs.Json.Reading
import Banter.Proofs.Json.Overlong
import Banter.Proofs.Reply.Breach
import Banter.Proofs.Session.Tick
import Banter.Proofs.Session.Waiting
import Banter.Proofs.Session.Company
import Banter.Proofs.Session.Lasting
import Banter.Proofs.Session.Recorder
import Banter.Proofs.Session.Equipment
import Banter.Proofs.Session.Pairing
import Banter.Proofs.Session.Renewal
import Banter.Proofs.Session.Shielding
import Banter.Proofs.Text.Visible
import Banter.Proofs.Json.Member
import Banter.Proofs.Reply.Format
import Banter.Proofs.Reply.Wholeness
import Banter.Proofs.Text.Word
import Banter.Proofs.Text.Sentence
import Banter.Proofs.Text.Layout
import Banter.Proofs.Text.Break
import Banter.Proofs.Text.Grouping
import Banter.Proofs.Text.Packing
import Banter.Proofs.Text.Roleplay
import Banter.Proofs.Reply.Utterance
import Banter.Proofs.Json.Writing
import Banter.Proofs.Request
import Banter.Proofs.Wire.Exchange
import Banter.Proofs.Text.Stability
import Banter.Proofs.Text.Mention
import Banter.Proofs.Number.Order
import Banter.Proofs.Activity.Chance
import Banter.Proofs.Session.Admission
import Banter.Proofs.Text.Tie
import Banter.Proofs.Selection.Reach
import Banter.Proofs.Emote
import Banter.Proofs.Activity.Window
import Banter.Proofs.Session.Return
import Banter.Proofs.Session.Crowd
import Banter.Proofs.Console.Presence
import Banter.Proofs.Text.Lower
import Banter.Proofs.Session.Namesake
import Banter.Proofs.Settings.Acceptance
import Banter.Proofs.Console.OwnLine
import Banter.Proofs.Text.Span
import Banter.Proofs.Url.Parts
import Banter.Proofs.Url.Percent
import Banter.Proofs.Url.Combining
import Banter.Proofs.Url.Composition
import Banter.Proofs.Url.Spelling
import Banter.Proofs.Url.Punycode
import Banter.Proofs.Url.Domain
import Banter.Proofs.Url.Address
import Banter.Proofs.Url.Host
import Banter.Proofs.Url.Reading
import Banter.Proofs.Settings.MessageUrl
import Banter.Proofs.Number.NoNumber
import Banter.Proofs.Settings.Heartbeat
import Banter.Proofs.Program.Pace
