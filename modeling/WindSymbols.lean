import WindSymbols.Console.Arguments
import WindSymbols.Console.ColourName
import WindSymbols.Console.Command
import WindSymbols.Console.Emoji
import WindSymbols.Console.EmojiTable
import WindSymbols.Console.Literal
import WindSymbols.Console.LiteralToken
import WindSymbols.Console.Markup
import WindSymbols.Console.Report
import WindSymbols.Console.StyleName
import WindSymbols.Glyph.Basic
import WindSymbols.Glyph.Build
import WindSymbols.Glyph.Coordinate
import WindSymbols.Glyph.Wkt
import WindSymbols.Icon.Drawing
import WindSymbols.Icon.Export
import WindSymbols.Icon.Location
import WindSymbols.Locator.Basic
import WindSymbols.Locator.Params
import WindSymbols.Locator.Reader
import WindSymbols.Locator.Speed
import WindSymbols.Main
import WindSymbols.Number.Angle
import WindSymbols.Number.Binary64
import WindSymbols.Number.Complex
import WindSymbols.Number.Decimal
import WindSymbols.Number.Division
import WindSymbols.Number.Layout
import WindSymbols.Number.Power
import WindSymbols.Number.Powers
import WindSymbols.Number.Rounding
import WindSymbols.Number.Scalar
import WindSymbols.Number.Shortest
import WindSymbols.Number.Single
import WindSymbols.Proofs.Failure
import WindSymbols.Proofs.Glyph.Alike
import WindSymbols.Proofs.Glyph.Elements
import WindSymbols.Proofs.Glyph.Layout
import WindSymbols.Proofs.Glyph.ReadBack
import WindSymbols.Proofs.Glyph.Reflection
import WindSymbols.Proofs.Glyph.SamePaths
import WindSymbols.Proofs.Locator.Grammar
import WindSymbols.Proofs.Locator.Literal
import WindSymbols.Proofs.Locator.Pairs
import WindSymbols.Proofs.Locator.Params
import WindSymbols.Proofs.Locator.Query
import WindSymbols.Proofs.Locator.SpeedText
import WindSymbols.Proofs.Locator.Written
import WindSymbols.Proofs.Number.DecimalValue
import WindSymbols.Proofs.Number.Digits
import WindSymbols.Proofs.Number.Equality
import WindSymbols.Proofs.Number.Error
import WindSymbols.Proofs.Number.Grid
import WindSymbols.Proofs.Number.Interval
import WindSymbols.Proofs.Number.Order
import WindSymbols.Proofs.Number.Quarter
import WindSymbols.Proofs.Number.Shortest
import WindSymbols.Proofs.Number.Value
import WindSymbols.Proofs.Symbols.Hemisphere
import WindSymbols.Proofs.Symbols.Naming
import WindSymbols.Proofs.Symbols.Reachable
import WindSymbols.Proofs.Symbols.Session
import WindSymbols.Proofs.Symbols.Shape
import WindSymbols.Proofs.Symbols.Southern
import WindSymbols.Proofs.Symbols.SpecialSpeed
import WindSymbols.Proofs.Symbols.Table
import WindSymbols.Proofs.Symbols.TextPath
import WindSymbols.Proofs.Text.Lower
import WindSymbols.Proofs.Text.Trim
import WindSymbols.Proofs.Velocity.Knots
import WindSymbols.Proofs.Wind.Boundaries
import WindSymbols.Proofs.Wind.Classification
import WindSymbols.Proofs.Wind.Order
import WindSymbols.SymbolError
import WindSymbols.Symbols.Registry
import WindSymbols.Symbols.Resolution
import WindSymbols.Symbols.SymbolSet
import WindSymbols.Symbols.Table
import WindSymbols.Text.Blank
import WindSymbols.Text.CaseContext
import WindSymbols.Text.CharacterName
import WindSymbols.Text.Charset
import WindSymbols.Text.Cut
import WindSymbols.Text.Digit
import WindSymbols.Text.DigitRun
import WindSymbols.Text.Hidden
import WindSymbols.Text.LowerTable
import WindSymbols.Text.Lowercase
import WindSymbols.Text.Name
import WindSymbols.Text.Quoted
import WindSymbols.Text.Ranges
import WindSymbols.Text.Replace
import WindSymbols.Text.Word
import WindSymbols.Text.WordTable
import WindSymbols.Velocity.Amount
import WindSymbols.Velocity.Catalogue
import WindSymbols.Velocity.Expression
import WindSymbols.Velocity.Knots
import WindSymbols.Velocity.Measure
import WindSymbols.Velocity.Readings
import WindSymbols.Velocity.Spelling
import WindSymbols.Velocity.Term
import WindSymbols.Velocity.Token
import WindSymbols.Velocity.Unit
import WindSymbols.Velocity.UnitTable
import WindSymbols.Wind.Bucket
import WindSymbols.Wind.Elements
import WindSymbols.Wind.Profile
import WindSymbols.Proofs.Glyph.Exact
import WindSymbols.Proofs.Icon.Mirrored
import WindSymbols.Proofs.Number.Agreement
import WindSymbols.Proofs.Velocity.Agreement
import WindSymbols.Proofs.Console.Plain
import WindSymbols.Proofs.Console.SpeedColumn
import WindSymbols.Proofs.Console.BucketTable
import WindSymbols.Proofs.Locator.SpeedValue
import WindSymbols.Proofs.Wind.Exchange
import WindSymbols.Proofs.Icon.FailedExport
import WindSymbols.Proofs.Icon.Margin
import WindSymbols.Proofs.Icon.Outline
import WindSymbols.Proofs.Icon.Files
import WindSymbols.Proofs.Console.LocatorRows
import WindSymbols.Proofs.Console.UserText
import WindSymbols.Proofs.Number.Overflow
import WindSymbols.Proofs.Velocity.Readings
import WindSymbols.Proofs.Glyph.Range
import WindSymbols.Proofs.Glyph.Moderate
import WindSymbols.Proofs.Symbols.Building
import WindSymbols.Proofs.Symbols.Publication
