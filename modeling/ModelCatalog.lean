import ModelCatalog.Json.Reader
import ModelCatalog.Text.Visible
import ModelCatalog.LinkedModel
import ModelCatalog.Publication
import ModelCatalog.Text.Timestamp
import ModelCatalog.Unicode.Script
import ModelCatalog.Vocabulary
import ModelCatalog.Error
import ModelCatalog.TypeName
import ModelCatalog.Settings
import ModelCatalog.Environment
import ModelCatalog.Yaml.Spelling
import ModelCatalog.Yaml.Layout
import ModelCatalog.Yaml.Value
import ModelCatalog.SettingsText
import ModelCatalog.Command
import ModelCatalog.Main
import ModelCatalog.Proofs.Defaults
import ModelCatalog.Proofs.Identification
import ModelCatalog.Proofs.Strictness
import ModelCatalog.Proofs.Substitution
import ModelCatalog.Proofs.Registration
import ModelCatalog.Proofs.Reasons
import ModelCatalog.Proofs.Drafting
import ModelCatalog.Proofs.Leniency
import ModelCatalog.Proofs.OnDemand
import ModelCatalog.Proofs.Publishing
import ModelCatalog.Proofs.Hierarchy
import ModelCatalog.Proofs.Location
import ModelCatalog.Proofs.Rereading
import ModelCatalog.Proofs.Presentation
import ModelCatalog.Proofs.Merging
import ModelCatalog.Proofs.Unboxing
import ModelCatalog.Proofs.Arrays
import ModelCatalog.Proofs.Expansion
import ModelCatalog.Proofs.Adoption
import ModelCatalog.Proofs.Rounding
import ModelCatalog.Proofs.Visibility
