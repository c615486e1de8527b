import BucketDigest.Digester
import BucketDigest.GoldenVector
import BucketDigest.SampleScan
import BucketDigest.Settings.Document
import BucketDigest.Proofs.Scan.Acceptance
import BucketDigest.Proofs.Scan.Digests
import BucketDigest.Proofs.Scan.Refusal
import BucketDigest.Proofs.Numeral
import BucketDigest.Proofs.Scan.Labelling
import BucketDigest.Proofs.Time.Rfc3339
import BucketDigest.Proofs.Time.Moment
import BucketDigest.Proofs.Aggregation.Coarsening
import BucketDigest.Proofs.Scan.Rebucketing
import BucketDigest.Proofs.Json.Text
import BucketDigest.Proofs.Json.Members
import BucketDigest.Proofs.Wire.RoundTrip
import BucketDigest.Proofs.Digester
import BucketDigest.Proofs.Request.Selection
import BucketDigest.Proofs.Aggregation.Offsets
import BucketDigest.Proofs.Traversal
import BucketDigest.Proofs.Request.Reading
import BucketDigest.Proofs.Request.Declared
import BucketDigest.Proofs.Request.RoundTrip
import BucketDigest.Proofs.Request.Encoding
import BucketDigest.Proofs.Scan.Reordering
import BucketDigest.Proofs.Wire.Deciding
import BucketDigest.Proofs.Wire.Screening
import BucketDigest.Proofs.Wire.Storing
import BucketDigest.Proofs.Request.Parents
import BucketDigest.Proofs.Numeral.Order
import BucketDigest.Proofs.Time.Calendar
import BucketDigest.Proofs.Time.Writing
import BucketDigest.Proofs.Aggregation.Period
import BucketDigest.Proofs.Aggregation.Relabelling
import BucketDigest.Proofs.Wire.BareEntry
import BucketDigest.Proofs.Time.Form
import BucketDigest.Proofs.Aggregation.Precision
import BucketDigest.Proofs.Aggregation.IntegerBuckets
import BucketDigest.Proofs.Aggregation.Tiers
import BucketDigest.Proofs.Wire.Device
import BucketDigest.Proofs.Collation.CodePoint
import BucketDigest.Proofs.Aggregation.Widths
import BucketDigest.Proofs.GoldenVector
import BucketDigest.Proofs.Scan.Start
import BucketDigest.Proofs.Time.Spelling
