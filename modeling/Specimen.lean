import Specimen.Base64
import Specimen.Companion
import Specimen.Companion.File
import Specimen.Console
import Specimen.Der.Element
import Specimen.Der.Primitive
import Specimen.Disk
import Specimen.Disk.Operations
import Specimen.Disk.Walk
import Specimen.Embedded
import Specimen.Environment
import Specimen.Fixture
import Specimen.Fixture.Load
import Specimen.Hex
import Specimen.Hex.Pieces
import Specimen.Main
import Specimen.Number.Binary64
import Specimen.Octets
import Specimen.Oid
import Specimen.Path
import Specimen.Pem.AllBlocks
import Specimen.Pem.Armour
import Specimen.Pem.FirstBlock
import Specimen.Pem.Line
import Specimen.Proofs.Agreement
import Specimen.Proofs.AllBlocks
import Specimen.Proofs.Armour
import Specimen.Proofs.Base64
import Specimen.Proofs.CompanionWrite
import Specimen.Proofs.Contents
import Specimen.Proofs.Embedded
import Specimen.Proofs.FirstBlock
import Specimen.Proofs.HexInverse
import Specimen.Proofs.HexOutcome
import Specimen.Proofs.LastWrite
import Specimen.Proofs.Leaves
import Specimen.Proofs.Lines
import Specimen.Proofs.Load
import Specimen.Proofs.Marks
import Specimen.Proofs.PassThrough
import Specimen.Proofs.PlainFile
import Specimen.Proofs.Reading
import Specimen.Proofs.Regenerating
import Specimen.Proofs.Sample
import Specimen.Proofs.Writing
import Specimen.Provider
import Specimen.Provider.Method
import Specimen.Regenerate
import Specimen.Register
import Specimen.Session
import Specimen.Session.Command
import Specimen.Settings
import Specimen.Settings.EnvFile
import Specimen.Sha256
import Specimen.Stream
import Specimen.Text.Blank
import Specimen.Text.Printable
import Specimen.Text.Quoted
import Specimen.Text.Upper
import Specimen.Text.Utf8
import Specimen.Text.Wide
import Specimen.Value
import Specimen.Value.Display
import Specimen.Value.Equality
import Specimen.Value.Kind
import Specimen.World
import Specimen.X509.Algorithm
import Specimen.X509.Certificate
import Specimen.X509.Name
import Specimen.X509.NameText
import Specimen.Proofs.Soundness
import Specimen.Proofs.Sources
import Specimen.Proofs.Placement
import Specimen.Proofs.DefaultProvider
import Specimen.Proofs.History
import Specimen.Proofs.Thresholds
import Specimen.Proofs.Layout
import Specimen.Proofs.WriteFrame
import Specimen.Proofs.Refusal
import Specimen.Proofs.LevelNames
import Specimen.Proofs.Readers
import Specimen.Proofs.Truncation
import Specimen.Proofs.Decoding
import Specimen.Proofs.Loading
import Specimen.Proofs.Guarded
import Specimen.Proofs.NameText
import Specimen.Proofs.HexNumber
import Specimen.Proofs.Serial
import Specimen.Proofs.Frozen
import Specimen.Proofs.Slices
import Specimen.Proofs.Handles
