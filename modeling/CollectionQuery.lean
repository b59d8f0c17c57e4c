import CollectionQuery.Main
import CollectionQuery.Proofs.Collection.Members
import CollectionQuery.Proofs.Collection.Navigation
import CollectionQuery.Proofs.Collection.Pages
import CollectionQuery.Proofs.Sparql.Path
import CollectionQuery.Proofs.Collection.Links
import CollectionQuery.Proofs.Collection.ClassRules
import CollectionQuery.Proofs.Collection.FilterCalls
import CollectionQuery.Proofs.Collection.History
import CollectionQuery.Proofs.Collection.Trace
import CollectionQuery.Proofs.Collection.Extensions
import CollectionQuery.Proofs.Collection.MemberVariable
import CollectionQuery.Proofs.Collection.Chain
import CollectionQuery.Proofs.Template.Standard
import CollectionQuery.Proofs.Template.Conformance
import CollectionQuery.Proofs.Collection.Shape
import CollectionQuery.Proofs.Collection.PageGraph
import CollectionQuery.Proofs.Collection.ListedMembers
import CollectionQuery.Proofs.Collection.Ambiguity
import CollectionQuery.Proofs.Collection.PairOrder
import CollectionQuery.Proofs.Sparql.PathDescription
import CollectionQuery.Proofs.Rdf.TripleList
import CollectionQuery.Proofs.Rdf.ListReading
import CollectionQuery.Proofs.Sparql.PathPlaces
import CollectionQuery.Proofs.Collection.LookupHistory
import CollectionQuery.Proofs.Sparql.VariableName
import CollectionQuery.Proofs.Collection.GeneratedVariables
import CollectionQuery.Proofs.Collection.ClassIncludes
import CollectionQuery.Proofs.Collection.Preloaded
import CollectionQuery.Proofs.Sparql.Simplification
import CollectionQuery.Proofs.Search.Explicit
import CollectionQuery.Proofs.Collection.Inactive
import CollectionQuery.Proofs.Collection.PageLinks
import CollectionQuery.Proofs.Template.Triplets
import CollectionQuery.Proofs.Template.Limited
import CollectionQuery.Proofs.Search.Questions
import CollectionQuery.Proofs.Sparql.PathTermination
import CollectionQuery.Proofs.Rdf.Without
import CollectionQuery.Proofs.Collection.Unlimited
import CollectionQuery.Proofs.Collection.Limit
