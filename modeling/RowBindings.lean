import RowBindings.Main
import RowBindings.Precompile
import RowBindings.Proofs.Bindings.Collisions
import RowBindings.Proofs.Bindings.FirstFault
import RowBindings.Proofs.Bindings.Names
import RowBindings.Proofs.Bindings.Reading
import RowBindings.Proofs.Bindings.Schema
import RowBindings.Proofs.Bindings.Shadowing
import RowBindings.Proofs.Bindings.StructLines
import RowBindings.Proofs.Bindings.TypeNames
import RowBindings.Proofs.Codec.InvalidUtf8
import RowBindings.Proofs.Codec.WideInteger
import RowBindings.Proofs.Command.Arrangement
import RowBindings.Proofs.Command.Provenance
import RowBindings.Proofs.Descriptor.Attributes
import RowBindings.Proofs.Descriptor.Locality
import RowBindings.Proofs.Descriptor.Size
import RowBindings.Proofs.Field.Faults
import RowBindings.Proofs.Field.Messages
import RowBindings.Proofs.Field.Order
import RowBindings.Proofs.Identifier.CaseForms
import RowBindings.Proofs.Program.Transcript
import RowBindings.Proofs.Tables.Requests
