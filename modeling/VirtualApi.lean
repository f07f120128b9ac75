import VirtualApi.Body
import VirtualApi.Kind.Standard
import VirtualApi.Proofs.Access.Tiers
import VirtualApi.Proofs.Access.Widening
import VirtualApi.Proofs.Body.Budget
import VirtualApi.Proofs.Catalog.Layout
import VirtualApi.Proofs.Catalog.Loading
import VirtualApi.Proofs.Catalog.Lookup
import VirtualApi.Proofs.Catalog.Paging
import VirtualApi.Proofs.Chart.Confinement
import VirtualApi.Proofs.Chart.Manifests
import VirtualApi.Proofs.Chart.Preset
import VirtualApi.Proofs.Chart.Sharing
import VirtualApi.Proofs.Cluster.Grouping
import VirtualApi.Proofs.Cluster.Mapper
import VirtualApi.Proofs.Cluster.Resolution
import VirtualApi.Proofs.Cluster.Site
import VirtualApi.Proofs.Json.Ordered
import VirtualApi.Proofs.Json.Placing
import VirtualApi.Proofs.Kind.Addressing
import VirtualApi.Proofs.Kind.Admission
import VirtualApi.Proofs.Kind.Cutoff
import VirtualApi.Proofs.Kind.Envelope
import VirtualApi.Proofs.Kind.Overlay
import VirtualApi.Proofs.Kind.Registration
import VirtualApi.Proofs.Kind.Repeat
import VirtualApi.Proofs.Label.Grammar
import VirtualApi.Proofs.Label.Notation
import VirtualApi.Proofs.Object.Naming
import VirtualApi.Proofs.Quantity.Amount
import VirtualApi.Proofs.Quantity.Closure
import VirtualApi.Proofs.Quantity.Exact
import VirtualApi.Proofs.Quantity.Family
import VirtualApi.Proofs.Quantity.Notation
import VirtualApi.Proofs.Quantity.ResourceList
import VirtualApi.Proofs.Quantity.Sums
import VirtualApi.Proofs.Table.Age
import VirtualApi.Proofs.Table.Convertor
import VirtualApi.Proofs.Workload.Absent
import VirtualApi.Proofs.Workload.Access
import VirtualApi.Proofs.Workload.Totals
import VirtualApi.Server
