import FieldMesh.Action.Basic
import FieldMesh.Action.Build
import FieldMesh.Action.Error
import FieldMesh.Action.Kinds
import FieldMesh.Action.Lending
import FieldMesh.Action.Native
import FieldMesh.Action.Registry
import FieldMesh.Action.Routine
import FieldMesh.Action.Scale
import FieldMesh.Action.Scripted
import FieldMesh.Config.Basic
import FieldMesh.Config.Error
import FieldMesh.Config.Read
import FieldMesh.Coords
import FieldMesh.Coords.Text
import FieldMesh.Coupling
import FieldMesh.Cursor
import FieldMesh.Cursor.Registers
import FieldMesh.Decimal.Layout
import FieldMesh.Decimal.Shortest
import FieldMesh.Ident
import FieldMesh.Json.Basic
import FieldMesh.Json.Reader
import FieldMesh.Json.Writer
import FieldMesh.Length
import FieldMesh.Mesh.Basic
import FieldMesh.Mesh.Edit
import FieldMesh.Mesh.Element
import FieldMesh.Mesh.Error
import FieldMesh.Mesh.Field
import FieldMesh.Mesh.Group
import FieldMesh.Mesh.Selection
import FieldMesh.Mesh.Validate
import FieldMesh.Proofs.Allocation
import FieldMesh.Proofs.Areas
import FieldMesh.Proofs.Arrays
import FieldMesh.Proofs.Calls
import FieldMesh.Proofs.ConfigFormat
import FieldMesh.Proofs.Configured
import FieldMesh.Proofs.Dispatch
import FieldMesh.Proofs.Entries
import FieldMesh.Proofs.Exchange
import FieldMesh.Proofs.FieldNames
import FieldMesh.Proofs.Fields
import FieldMesh.Proofs.Frames
import FieldMesh.Proofs.Genuine
import FieldMesh.Proofs.Groups
import FieldMesh.Proofs.Identity
import FieldMesh.Proofs.Imports
import FieldMesh.Proofs.Lending
import FieldMesh.Proofs.LentRows
import FieldMesh.Proofs.Lifecycle
import FieldMesh.Proofs.Loans
import FieldMesh.Proofs.Marks
import FieldMesh.Proofs.Moves
import FieldMesh.Proofs.Numbered
import FieldMesh.Proofs.Outcomes
import FieldMesh.Proofs.Outlines
import FieldMesh.Proofs.Oversized
import FieldMesh.Proofs.Positions
import FieldMesh.Proofs.Programs
import FieldMesh.Proofs.Refusals
import FieldMesh.Proofs.Removal
import FieldMesh.Proofs.Requests
import FieldMesh.Proofs.Retention
import FieldMesh.Proofs.Rounds
import FieldMesh.Proofs.RowAccess
import FieldMesh.Proofs.RowMajor
import FieldMesh.Proofs.RowTable
import FieldMesh.Proofs.Rows
import FieldMesh.Proofs.Runs
import FieldMesh.Proofs.Scalings
import FieldMesh.Proofs.Selections
import FieldMesh.Proofs.Sessions
import FieldMesh.Proofs.Slots
import FieldMesh.Proofs.Snapshots
import FieldMesh.Proofs.Sound
import FieldMesh.Proofs.Teardown
import FieldMesh.Proofs.Unbuilt
import FieldMesh.Proofs.Usage
import FieldMesh.Proofs.Validation
import FieldMesh.Proofs.Walks
import FieldMesh.Proofs.Wired
import FieldMesh.Proofs.Writes
import FieldMesh.Scaling
import FieldMesh.Script.Access
import FieldMesh.Script.Described
import FieldMesh.Script.Disk
import FieldMesh.Script.Execute
import FieldMesh.Script.Interpreter
import FieldMesh.Script.Layout
import FieldMesh.Script.Program
import FieldMesh.Script.Session
import FieldMesh.Script.Standard
import FieldMesh.Script.Value
import FieldMesh.Snapshot
import FieldMesh.Text.Attaching
import FieldMesh.Text.CharSet
import FieldMesh.Text.Filler
import FieldMesh.Text.Hidden
import FieldMesh.Text.Late
import FieldMesh.Text.Named
import FieldMesh.Text.Quoted
import FieldMesh.Timing
import FieldMesh.VertexArea
import FieldMesh.View
