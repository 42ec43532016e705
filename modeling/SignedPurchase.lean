import SignedPurchase.Bearer.Pool
import SignedPurchase.Client.Basic
import SignedPurchase.Configuration.Surroundings
import SignedPurchase.Json.Shape.Write
import SignedPurchase.Proofs.Token.Segments
import SignedPurchase.Proofs.Token.Splitting
import SignedPurchase.Proofs.Token.Writing
import SignedPurchase.Proofs.Outcome
import SignedPurchase.Proofs.Trust.Gate
import SignedPurchase.Proofs.Trust.Certification
import SignedPurchase.Proofs.Trust.Walk
import SignedPurchase.Proofs.Trust.Vouching
import SignedPurchase.Proofs.Json.Reading
import SignedPurchase.Proofs.Json.Routes
import SignedPurchase.Proofs.Trust.Records
import SignedPurchase.Proofs.Certificate.Time
import SignedPurchase.Proofs.Trust.Window
import SignedPurchase.Proofs.Trust.Verdict
import SignedPurchase.Proofs.Trust.Positions
import SignedPurchase.Proofs.Url.Origin
import SignedPurchase.Proofs.Url.Percent
import SignedPurchase.Proofs.Url.Segment
import SignedPurchase.Proofs.Client.Addressing
import SignedPurchase.Proofs.Client.Discipline
import SignedPurchase.Proofs.Text.Utf8
import SignedPurchase.Proofs.Digest.Schedule
import SignedPurchase.Proofs.Bearer.Keeping
import SignedPurchase.Proofs.Bearer.Turns
import SignedPurchase.Proofs.Bearer.Waiting
import SignedPurchase.Proofs.Client.Rejection
import SignedPurchase.Proofs.Json.Lexemes
import SignedPurchase.Proofs.Json.Writing
import SignedPurchase.Proofs.Json.Restoring
import SignedPurchase.Proofs.Record.Reencoding
import SignedPurchase.Proofs.Text.Base64
import SignedPurchase.Proofs.Bearer.Claims
import SignedPurchase.Proofs.Bearer.Holding
import SignedPurchase.Proofs.Bearer.Family
import SignedPurchase.Proofs.Bearer.Fingerprint
import SignedPurchase.Proofs.Bearer.Sharing
import SignedPurchase.Proofs.Token.Entries
import SignedPurchase.Proofs.Trust.Reports
import SignedPurchase.Proofs.Trust.Stages
import SignedPurchase.Proofs.Trust.Diagnosis
import SignedPurchase.Proofs.Trust.Rollover
import SignedPurchase.Proofs.Trust.Criticality
import SignedPurchase.Proofs.Record.Absence
import SignedPurchase.Proofs.Trust.Several
import SignedPurchase.Proofs.Trust.Veto
import SignedPurchase.Proofs.Record.Expiry
import SignedPurchase.Proofs.Bearer.Refusal
import SignedPurchase.Proofs.Bearer.Separation
import SignedPurchase.Proofs.Json.Members
import SignedPurchase.Proofs.Json.Sites
import SignedPurchase.Proofs.Json.Cutting
import SignedPurchase.Proofs.Json.Grammar
import SignedPurchase.Proofs.Record.Arrangement
import SignedPurchase.Proofs.Der.Element
import SignedPurchase.Proofs.Trust.Shortcut
import SignedPurchase.Proofs.Text.Lossy
import SignedPurchase.Proofs.Text.Count
import SignedPurchase.Proofs.Client.Statuses
import SignedPurchase.Proofs.Url.Form
import SignedPurchase.Proofs.Client.Paging
import SignedPurchase.Proofs.Bytes
import SignedPurchase.Proofs.Der.Strict
import SignedPurchase.Proofs.Pem.First
import SignedPurchase.Proofs.Pem.Written
import SignedPurchase.Proofs.Key.Document
import SignedPurchase.Proofs.Bearer.Lending
import SignedPurchase.Proofs.Key.Classes
import SignedPurchase.Proofs.Trust.Bound
import SignedPurchase.Proofs.Text.Spelling
import SignedPurchase.Proofs.Trust.Respelling
import SignedPurchase.Proofs.Json.Hiding
import SignedPurchase.Proofs.Configuration.Writing
import SignedPurchase.Proofs.Configuration.Resolving
