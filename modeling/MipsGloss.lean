import MipsGloss.Json.Reader
import MipsGloss.Main
import MipsGloss.Report.Rendering
import MipsGloss.Service
import MipsGloss.Proofs.Listing.Fault
import MipsGloss.Proofs.Listing.Grammar
import MipsGloss.Proofs.Listing.Note
import MipsGloss.Proofs.Listing.Append
import MipsGloss.Proofs.Listing.ByteOrder
import MipsGloss.Proofs.Report
import MipsGloss.Proofs.Encoding.Fields
import MipsGloss.Proofs.Encoding.Slice
import MipsGloss.Proofs.Encoding.Fault
import MipsGloss.Proofs.Report.Word
import MipsGloss.Proofs.Report.Failure
import MipsGloss.Proofs.Assembly.Schema
import MipsGloss.Proofs.Assembly.Arrangement
import MipsGloss.Proofs.Assembly.Explanation
import MipsGloss.Proofs.Assembly.Funct
import MipsGloss.Proofs.Assembly.Address
import MipsGloss.Proofs.Json.Grammar
import MipsGloss.Proofs.Json.Reader
import MipsGloss.Proofs.Json.Line
import MipsGloss.Proofs.Text.Columns
import MipsGloss.Proofs.Report.Structured
import MipsGloss.Proofs.Report.Page
import MipsGloss.Proofs.Service
import MipsGloss.Proofs.Profile.Document
import MipsGloss.Proofs.Command.Profile
import MipsGloss.Proofs.Disk
import MipsGloss.Proofs.Command.Host
import MipsGloss.Proofs.Command.Outcome
import MipsGloss.Proofs.Assembly.Category
import MipsGloss.Proofs.Listing.NoteFree
import MipsGloss.Proofs.Report.Funct
import MipsGloss.Proofs.Assembly.Run
