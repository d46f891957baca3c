import SchemaReshape.Reading.TypeSystem
import SchemaReshape.Reading.Executable
import SchemaReshape.Settings.Toml
import SchemaReshape.Query.Scope
import SchemaReshape.Refusal
import SchemaReshape.Proofs.Query.Split
import SchemaReshape.Proofs.Rename.Leftovers
import SchemaReshape.Proofs.Rename.Substitution
import SchemaReshape.Proofs.Rename.Validity
import SchemaReshape.Proofs.Merge.TypeNames
import SchemaReshape.Proofs.Rename.FormerNames
import SchemaReshape.Proofs.Rename.Scalars
import SchemaReshape.Proofs.Rename.Composition
import SchemaReshape.Proofs.Rename.Successive
import SchemaReshape.Proofs.Rename.Restoring
import SchemaReshape.Proofs.Query.Narrowing
import SchemaReshape.Proofs.Rename.Suppressing
import SchemaReshape.Proofs.Query.Arguments
import SchemaReshape.Proofs.Merge.AddedFields
import SchemaReshape.Proofs.Rename.Origins
import SchemaReshape.Proofs.Rename.PossibleTypes
import SchemaReshape.Proofs.Query.Rules
import SchemaReshape.Proofs.Query.Declared
import SchemaReshape.Proofs.Query.Reach
import SchemaReshape.Proofs.Query.Splittable
import SchemaReshape.Proofs.Rename.Remedies
import SchemaReshape.Proofs.Rename.ConflictReport
import SchemaReshape.Proofs.Merge.Reordered
import SchemaReshape.Proofs.Rename.Reordered
import SchemaReshape.Proofs.Rename.UnknownEntries
import SchemaReshape.Proofs.Schema.Buildable
import SchemaReshape.Proofs.Schema.Offences
import SchemaReshape.Proofs.Query.Assertions
import SchemaReshape.Proofs.Document.Traversal
import SchemaReshape.Proofs.Parsed.Listed
import SchemaReshape.Proofs.Rename.PlanHistory
