import Mailroom.Command.Perform
import Mailroom.Files.Tree
import Mailroom.Machine.Session
import Mailroom.Main
import Mailroom.Proofs.Level.Grammar
import Mailroom.Proofs.Machine.Fetched
import Mailroom.Proofs.Machine.Inbox
import Mailroom.Proofs.Machine.Limit
import Mailroom.Proofs.Machine.Session
import Mailroom.Proofs.Machine.Stop
import Mailroom.Proofs.Machine.Values
import Mailroom.Proofs.Program.Append
import Mailroom.Proofs.Program.Safety
import Mailroom.Proofs.Report.Speed
import Mailroom.Proofs.Report.Trials
import Mailroom.Proofs.Text.Decimal
import Mailroom.Proofs.Level.Formats
import Mailroom.Proofs.Level.Faults
import Mailroom.Proofs.Report.Print
import Mailroom.Proofs.Command.Verify
import Mailroom.Proofs.Command.Words
import Mailroom.Proofs.Command.Run
import Mailroom.Proofs.Yaml.Blame
import Mailroom.Proofs.Yaml.Scan
import Mailroom.Proofs.Yaml.Tokens
import Mailroom.Proofs.Yaml.Document
import Mailroom.Proofs.Yaml.Merge
import Mailroom.Proofs.Yaml.Load
import Mailroom.Proofs.Level.Reported
import Mailroom.Proofs.Command.Crash
import Mailroom.Proofs.Machine.Rename
import Mailroom.Proofs.Program.Insert
import Mailroom.Proofs.Program.FirstFault
import Mailroom.Proofs.Files.Read
import Mailroom.Proofs.Level.FirstFault
import Mailroom.Proofs.Machine.Messages
import Mailroom.Proofs.Level.NormalForm
import Mailroom.Proofs.Command.Check
import Mailroom.Proofs.Level.Documents
import Mailroom.Proofs.Level.Tagged
import Mailroom.Proofs.Instruction
import Mailroom.Package
import Mailroom.Proofs.Level.Quotes
