import PinTypes.Text.Blank
import PinTypes.Text.Lines
import PinTypes.Text.Alphanumeric
import PinTypes.Text.Uppercase
import PinTypes.Text.Lowercase
import PinTypes.Number.Layout
import PinTypes.Number.Reading
import PinTypes.Json.Printer
import PinTypes.Json.Readable
import PinTypes.Scalar.Exchange
import PinTypes.Identifier
import PinTypes.Digest.Blake3
import PinTypes.Enumeration.Selection
import PinTypes.Enumeration.Catalog
import PinTypes.Enumeration.Mint
import PinTypes.Instant.Reader
import PinTypes.Instant.Printer
import PinTypes.SchemaType.Record
import PinTypes.SchemaType.Family
import PinTypes.Typer
import PinTypes.Proofs.Enumeration.Orders
import PinTypes.Proofs.Enumeration.Selection
import PinTypes.Proofs.Number.Rounding
import PinTypes.Proofs.Scalar.Exchange
import PinTypes.Proofs.Pin.Defaults
import PinTypes.Proofs.Enumeration.Agreement
import PinTypes.Proofs.Typer.Defaults
import PinTypes.Proofs.Pin.Choices
import PinTypes.Proofs.Enumeration.CatalogViews
import PinTypes.Proofs.Enumeration.Labels
import PinTypes.Proofs.Stored
import PinTypes.Proofs.SchemaType.Occurrence
import PinTypes.Proofs.SchemaType.Narrowing
import PinTypes.Proofs.SchemaType.Wrapping
import PinTypes.Proofs.Number.Digits
import PinTypes.Proofs.Instant.RoundTrip
import PinTypes.Proofs.Pin.Instants
import PinTypes.Proofs.Enumeration.Identity
import PinTypes.Proofs.Identifier.Usable
import PinTypes.Proofs.Identifier.Words
import PinTypes.Proofs.Text.Lowercase
import PinTypes.Proofs.Number.Layout
import PinTypes.Proofs.Enumeration.Null
import PinTypes.Proofs.Enumeration.Spelling
import PinTypes.Proofs.Enumeration.ValuesByName
import PinTypes.Proofs.Pin.Help
import PinTypes.Proofs.Typer.Dispatch
import PinTypes.Proofs.Scalar.Stability
import PinTypes.Proofs.SchemaType.Assets
