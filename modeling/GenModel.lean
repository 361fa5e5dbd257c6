import GenModel.Arguments
import GenModel.Command
import GenModel.Declaration
import GenModel.Disk
import GenModel.Dump
import GenModel.Error
import GenModel.Event
import GenModel.Host
import GenModel.Instant
import GenModel.Language
import GenModel.Main
import GenModel.Path
import GenModel.Registry
import GenModel.Render
import GenModel.Run
import GenModel.Source
import GenModel.Target
import GenModel.TypeExpr
import GenModel.Proofs.Source.Grammar
import GenModel.Proofs.Text.Decimal
import GenModel.Proofs.Text.LowerCase
import GenModel.Proofs.Declaration
import GenModel.Proofs.Insertions
import GenModel.Proofs.EnumLiterals
import GenModel.Proofs.Source.RoundTrip
import GenModel.Proofs.Failures
import GenModel.Proofs.Run.Collecting
import GenModel.Proofs.Disk.Changes
import GenModel.Proofs.Disk.Making
import GenModel.Proofs.Path
import GenModel.Proofs.Run.Places
import GenModel.Proofs.Run.OnDisk
import GenModel.Proofs.Run.Placement
import GenModel.Proofs.Text.FirstLines
import GenModel.Proofs.Source.Failure
import GenModel.Proofs.Source.Concatenation
import GenModel.Proofs.Text.Unbroken
import GenModel.Proofs.Render.Page
import GenModel.Proofs.Render.Types
import GenModel.Proofs.Render.Classes
import GenModel.Proofs.Render.Enums
import GenModel.Proofs.Render.Layout
import GenModel.Proofs.Render.Constants
import GenModel.Proofs.Render.Settings
import GenModel.Proofs.Run.Order
import GenModel.Proofs.Command
import GenModel.Proofs.Dump
import GenModel.Proofs.Json
import GenModel.Proofs.Registry
import GenModel.Proofs.Render.Imports
import GenModel.Proofs.Text.UpperCase
import GenModel.Proofs.Render.Identifiers
import GenModel.Proofs.Run.FileCount
import GenModel.Proofs.Target
import GenModel.Proofs.TypeExpr
import GenModel.Proofs.Render.ImportLines
import GenModel.Proofs.Text.Words
import GenModel.Proofs.Render.LegalConstants
import GenModel.Proofs.Calendar
import GenModel.Proofs.Render.Acceptance
import GenModel.Proofs.Render.CanonicalTypes
import GenModel.Proofs.Run.WriteFile
import GenModel.Proofs.Text.FixedWidth
