import Roadmap.Base.Sql
import Roadmap.Base.Batches
import Roadmap.Base.Condition
import Roadmap.Base.Text
import Roadmap.Base.Numeral
import Roadmap.Base.Regex
import Roadmap.Base.Dict
import Roadmap.Base.Nested
import Roadmap.Base.Keyed
import Roadmap.Base.InvertedIndex
import Roadmap.Base.Calendar
import Roadmap.Base.Json
import Roadmap.Base.Except
import Roadmap.Base.Effects
import Roadmap.Base.Generator
import Roadmap.Base.Memo
import Roadmap.Base.Interleaving
import Roadmap.Base.Casing
import Roadmap.Base.Sorted
import Roadmap.Base.ComparisonSort
import Roadmap.Models
import Roadmap.Data.Systems
import Roadmap.Inventory
import Roadmap.Rbac
import Roadmap.Rbac.Definitions
import Roadmap.Rbac.Order
import Roadmap.Common
import Roadmap.Rhel.Relevant
import Roadmap.Rhel.Integrity
import Roadmap.Rhel.Batches
import Roadmap.Rhel.ManyBatches
import Roadmap.Rhel.Suggestions
import Roadmap.Rhel.Drilldown
import Roadmap.Rhel.DrilldownAgreement
import Roadmap.Statements
import Roadmap.LifecycleFilter
import Roadmap.AppStreams.Entity
import Roadmap.AppStreams.Catalogue
import Roadmap.AppStreams.Nevra
import Roadmap.AppStreams.OmittedEpoch
import Roadmap.AppStreams.EpochForm
import Roadmap.AppStreams.Scan
import Roadmap.AppStreams.StreamVersion
import Roadmap.AppStreams.PerHost
import Roadmap.AppStreams.ModuleAttribution
import Roadmap.AppStreams.Relevant
import Roadmap.AppStreams.Kept
import Roadmap.AppStreams.Related
import Roadmap.AppStreams.Batches
import Roadmap.AppStreams.Endpoints
import Roadmap.AppStreams.NameFilter
import Roadmap.AppStreams.StreamOrder
import Roadmap.SortAttrs
import Roadmap.AppStreams.History
import Roadmap.Pagination
import Roadmap.Rhel.Search
import Roadmap.AppStreams.Systems
import Roadmap.Upcoming.Relevant
import Roadmap.Upcoming.Batches
import Roadmap.Upcoming.ManyBatches
import Roadmap.Notificator
import Roadmap.Notificator.Window
import Roadmap.Notificator.Rhel
import Roadmap.Notificator.RhelCounts
import Roadmap.Notificator.AppStreams
import Roadmap.Notificator.AppStreamCounts
import Roadmap.Notificator.StreamAgreement
import Roadmap.Notificator.Payload
import Roadmap.Notificator.Delivery
import Roadmap.Notificator.Outcomes
import Roadmap.SupportStatus
import Roadmap.Upcoming.Systems
import Roadmap.MalformedPackages
import Roadmap.VersionFilter
import Roadmap.Scripts.ModulePackages
import Roadmap.Scripts.Hosts
import Roadmap.Scripts.HostArrays
import Roadmap.Scripts.Load
import Roadmap.Scripts.Generate
import Roadmap.Api.Requests
import Roadmap.Api.Isolation
import Roadmap.Api.HostBatches
import Roadmap.Api.Disclosure
import Roadmap.Api.Access
import Roadmap.Api.Entitled
import Roadmap.Caches.Packages
import Roadmap.Caches.Readers
import Roadmap.Notificator.Sent
import Roadmap.Notificator.OwnHosts
import Roadmap.Notificator.Subscriptions
import Roadmap.Admin.Notifications
import Roadmap.Admin.Triggers
import Roadmap.Api.Documents
import Roadmap.Api.DocumentRuns
