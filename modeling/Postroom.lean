import Postroom.Coding.Base64
import Postroom.Coding.Charset
import Postroom.Coding.CodePage
import Postroom.Coding.Digest
import Postroom.Coding.DomainName
import Postroom.Coding.MailboxName
import Postroom.Coding.Percent
import Postroom.Coding.Punycode
import Postroom.Coding.QuotedPrintable
import Postroom.Coding.Utf16
import Postroom.Coding.Utf7
import Postroom.Config.Filter
import Postroom.Config.Server
import Postroom.Config.Value
import Postroom.Filter.Action
import Postroom.Filter.Delivery
import Postroom.Filter.Event
import Postroom.Filter.Marks
import Postroom.Filter.Query
import Postroom.Filter.Spam
import Postroom.Mail.Address
import Postroom.Mail.ContentType
import Postroom.Mail.Date
import Postroom.Mail.EncodedWord
import Postroom.Mail.Field
import Postroom.Mail.Forward
import Postroom.Mail.Idn
import Postroom.Mail.Message
import Postroom.Mail.Multipart
import Postroom.Mail.Recipient
import Postroom.Mailbox.Error
import Postroom.Mailbox.Flag
import Postroom.Mailbox.Folder
import Postroom.Mailbox.Memory
import Postroom.Mailbox.Path
import Postroom.Mailbox.Store
import Postroom.Mailbox.Tag
import Postroom.Mailbox.Token
import Postroom.Notice
import Postroom.Pattern.Basic
import Postroom.Pattern.Form
import Postroom.Pattern.Parser
import Postroom.Pattern.PropertyName
import Postroom.Pattern.Size
import Postroom.Proofs.Coding.Ascii
import Postroom.Proofs.Delivery.Books
import Postroom.Proofs.Delivery.CarriedFlags
import Postroom.Proofs.Delivery.Conservation
import Postroom.Proofs.Delivery.Course
import Postroom.Proofs.Delivery.Emission
import Postroom.Proofs.Delivery.Faults
import Postroom.Proofs.Delivery.Filings
import Postroom.Proofs.Delivery.Independence
import Postroom.Proofs.Delivery.RemoteFiling
import Postroom.Proofs.Delivery.Renewal
import Postroom.Proofs.Delivery.Retry
import Postroom.Proofs.Delivery.Routing
import Postroom.Proofs.Delivery.Trace
import Postroom.Proofs.Delivery.Uniformity
import Postroom.Proofs.Delivery.Warnings
import Postroom.Proofs.Filter.FieldQueries
import Postroom.Proofs.Filter.ResolvedMarks
import Postroom.Proofs.Filter.SpamMarks
import Postroom.Proofs.Mail.AddressCuts
import Postroom.Proofs.Mail.Author
import Postroom.Proofs.Mail.AuthorField
import Postroom.Proofs.Mail.BareAddress
import Postroom.Proofs.Mail.DecodedList
import Postroom.Proofs.Mail.DecodedPieces
import Postroom.Proofs.Mail.DomainLabels
import Postroom.Proofs.Mail.ExpandedValues
import Postroom.Proofs.Mail.FieldNames
import Postroom.Proofs.Mail.FieldText
import Postroom.Proofs.Mail.FirstContact
import Postroom.Proofs.Mail.HeaderBlock
import Postroom.Proofs.Mail.LegibleContacts
import Postroom.Proofs.Mail.ReadBack
import Postroom.Proofs.Mail.Resending
import Postroom.Proofs.Mailbox.Agreement
import Postroom.Proofs.Mailbox.Folders
import Postroom.Proofs.Mailbox.History
import Postroom.Proofs.Mailbox.ItemKeys
import Postroom.Proofs.Mailbox.LongestPrefix
import Postroom.Proofs.Mailbox.Paths
import Postroom.Proofs.Mailbox.Resolution
import Postroom.Proofs.Mailbox.Suppression
import Postroom.Proofs.Mailbox.Tags
import Postroom.Proofs.Mailbox.Tree
import Postroom.Proofs.Pattern.ClassEnds
import Postroom.Proofs.Pattern.ItemEnds
import Postroom.Proofs.Pattern.Matching
import Postroom.Proofs.Pattern.Moves
import Postroom.Proofs.Pattern.Readers
import Postroom.Proofs.Pattern.Wrapping
import Postroom.Proofs.Shell.QuotedWord
import Postroom.Proofs.Text.Ascii
import Postroom.Proofs.Transport.AppendCommand
import Postroom.Proofs.Transport.ListCommand
import Postroom.Proofs.Transport.MailboxNames
import Postroom.Proofs.Transport.Readiness
import Postroom.Shell.Alias
import Postroom.Shell.Arithmetic
import Postroom.Shell.Awk.Program
import Postroom.Shell.Awk.Run
import Postroom.Shell.Awk.Token
import Postroom.Shell.Awk.Value
import Postroom.Shell.Awk.Work
import Postroom.Shell.Builtin
import Postroom.Shell.Command
import Postroom.Shell.Condition
import Postroom.Shell.Expansion
import Postroom.Shell.Fields
import Postroom.Shell.Format
import Postroom.Shell.Glob
import Postroom.Shell.Interpreter
import Postroom.Shell.Machine
import Postroom.Shell.Nesting
import Postroom.Shell.Regex
import Postroom.Shell.Runner
import Postroom.Shell.Token
import Postroom.Shell.Utility
import Postroom.Shell.Utility.Basic
import Postroom.Shell.Utility.Batch
import Postroom.Shell.Utility.Blocks
import Postroom.Shell.Utility.Clock
import Postroom.Shell.Utility.Difference
import Postroom.Shell.Utility.Edit
import Postroom.Shell.Utility.Encoding
import Postroom.Shell.Utility.Exchange
import Postroom.Shell.Utility.Files
import Postroom.Shell.Utility.Find
import Postroom.Shell.Utility.Lines
import Postroom.Shell.Utility.Name
import Postroom.Shell.Utility.Order
import Postroom.Shell.Utility.Paths
import Postroom.Shell.Utility.Rights
import Postroom.Shell.Utility.Script
import Postroom.Shell.Utility.Search
import Postroom.Shell.Utility.Sort
import Postroom.Shell.Utility.Values
import Postroom.Text.Basic
import Postroom.Text.Blank
import Postroom.Text.Decimal
import Postroom.Text.Quoted
import Postroom.Text.Slice
import Postroom.Text.Utf8
import Postroom.Transport.Envelope
import Postroom.Transport.Error
import Postroom.Transport.Imap
import Postroom.Transport.Process
import Postroom.Transport.Remote
import Postroom.Transport.Sender
import Postroom.Transport.Smtp
import Postroom.Unicode.Age
import Postroom.Unicode.Break
import Postroom.Unicode.Case
import Postroom.Unicode.Category
import Postroom.Unicode.CodeSet
import Postroom.Unicode.Direction
import Postroom.Unicode.DomainMap
import Postroom.Unicode.Normal
import Postroom.Unicode.Property
import Postroom.Unicode.PropertySet
import Postroom.Unicode.Runs
import Postroom.Unicode.Script
