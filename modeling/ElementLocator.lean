import ElementLocator.Locator.Hint
import ElementLocator.Proofs.Acceptance
import ElementLocator.Proofs.Converter.Accounts
import ElementLocator.Proofs.Converter.Produced
import ElementLocator.Proofs.Detection
import ElementLocator.Proofs.Dict.Folding
import ElementLocator.Proofs.Dict.Placement
import ElementLocator.Proofs.Dict.Position
import ElementLocator.Proofs.Selector.Budget
import ElementLocator.Proofs.Selector.Skipping
import ElementLocator.Proofs.Selector.Warnings
import ElementLocator.Proofs.XPath.Brackets
import ElementLocator.Proofs.XPath.Operators
import ElementLocator.Proofs.XPath.RoundTrip
import ElementLocator.Proofs.Selector.Advancing
import ElementLocator.Proofs.Selector.Strings
import ElementLocator.Proofs.XPath.Flattening
import ElementLocator.Proofs.Selector.Tiling
import ElementLocator.Proofs.Selector.Misfit
import ElementLocator.Proofs.Dict.Merging
import ElementLocator.Proofs.Dict.Reporting
import ElementLocator.Proofs.XPath.Recursion
import ElementLocator.Proofs.XPath.Respelling
import ElementLocator.Proofs.Converter.Itemwise
import ElementLocator.Proofs.Converter.SuccessRate
import ElementLocator.Proofs.Dict.Hinting
import ElementLocator.Proofs.Selector.Offsets
import ElementLocator.Proofs.XPath.Encoding
import ElementLocator.Proofs.Selector.Quoting
