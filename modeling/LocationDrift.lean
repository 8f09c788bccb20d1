import LocationDrift.Text.Basic
import LocationDrift.Text.Blank
import LocationDrift.Text.Lines
import LocationDrift.Text.Range
import LocationDrift.Json.Binary64
import LocationDrift.Json.Basic
import LocationDrift.Json.Reader
import LocationDrift.Json.Printer
import LocationDrift.Json.Shown
import LocationDrift.Validation.Basic
import LocationDrift.Validation.Lax
import LocationDrift.Document.Range
import LocationDrift.Text.Utf8
import LocationDrift.Digest.Md5
import LocationDrift.Digest.Fingerprint
import LocationDrift.Text.Printable
import LocationDrift.Text.Quoted
import LocationDrift.Uri.Percent
import LocationDrift.Uri.Address
import LocationDrift.Uri.Split
import LocationDrift.Path.Posix
import LocationDrift.Uri.File
import LocationDrift.Codec.Names
import LocationDrift.Codec.Tables
import LocationDrift.Codec.Unicode
import LocationDrift.Codec.Escaped
import LocationDrift.Codec.Utf7
import LocationDrift.Codec.Basic
import LocationDrift.Disk.Basic
import LocationDrift.Disk.Path
import LocationDrift.Snapshot.Failure
import LocationDrift.Log
import LocationDrift.Settings
import LocationDrift.Fault
import LocationDrift.Snapshot.Basic
import LocationDrift.Snapshot.Cache
import LocationDrift.Time.Civil
import LocationDrift.Time.DateTime
import LocationDrift.Time.Reading
import LocationDrift.Document.Remote
import LocationDrift.Document.Taint
import LocationDrift.Document.Live
import LocationDrift.Display.Basic
import LocationDrift.Display.Check
import LocationDrift.Display.Build
import LocationDrift.Display.Remote
import LocationDrift.Display.Taint
import LocationDrift.Display.Live
import LocationDrift.Display.Batch
import LocationDrift.Cli.Arguments
import LocationDrift.Cli.EnvFile
import LocationDrift.Cli.Environment
import LocationDrift.Cli.Help
import LocationDrift.Cli.Run
import LocationDrift.Main
import LocationDrift.Proofs.Cache
import LocationDrift.Proofs.Session
import LocationDrift.Proofs.Sharing
import LocationDrift.Proofs.Reading
import LocationDrift.Proofs.LiveHash
import LocationDrift.Proofs.Faults
import LocationDrift.Proofs.RemoteVerdict
import LocationDrift.Proofs.Lookups
import LocationDrift.Proofs.Command
import LocationDrift.Proofs.UnitCounting
import LocationDrift.Proofs.RangeSpan
import LocationDrift.Proofs.TaintVerdict
import LocationDrift.Proofs.LiveVerdict
import LocationDrift.Proofs.ReadStages
import LocationDrift.Proofs.LineJoin
import LocationDrift.Proofs.PercentCoding
import LocationDrift.Proofs.PathText
import LocationDrift.Proofs.SplitAppend
import LocationDrift.Proofs.FileUris
import LocationDrift.Proofs.CalendarDays
import LocationDrift.Proofs.CreationDate
import LocationDrift.Proofs.PayloadForm
import LocationDrift.Proofs.JsonRefusal
