import Fleet.Main
import Fleet.Proofs.Lists
import Fleet.Proofs.Frame
import Fleet.Proofs.TemplateEdits
import Fleet.Proofs.DeviceEdits
import Fleet.Proofs.Runs
import Fleet.Proofs.Steps
import Fleet.Proofs.Answers
import Fleet.Proofs.Index
import Fleet.Proofs.Listings
import Fleet.Proofs.Sound
import Fleet.Proofs.Required
import Fleet.Proofs.Visibility
import Fleet.Proofs.StatusWritten
import Fleet.Proofs.Rendering
import Fleet.Proofs.Covered
import Fleet.Proofs.Stored
import Fleet.Proofs.Freshness
import Fleet.Proofs.Members
import Fleet.Proofs.TunnelIds
import Fleet.Proofs.Allocation
import Fleet.Proofs.PeerLists
import Fleet.Proofs.IndexRecords
import Fleet.Proofs.Mirror
import Fleet.Proofs.Backends
import Fleet.Proofs.Failures
import Fleet.Proofs.Integrity
import Fleet.Proofs.Activity
import Fleet.Proofs.Intrusions
import Fleet.Proofs.Deactivation
import Fleet.Proofs.TunnelModes
import Fleet.Proofs.Twins
import Fleet.Proofs.Told
import Fleet.Proofs.Course
import Fleet.Proofs.Announcements
import Fleet.Proofs.Refusals
import Fleet.Proofs.Ordering
import Fleet.Proofs.Attempts
import Fleet.Proofs.Repeats
import Fleet.Proofs.Retries
import Fleet.Proofs.Answered
import Fleet.Proofs.Leftovers
import Fleet.Proofs.LastTemplates
import Fleet.Proofs.Propagation
import Fleet.Proofs.Locality
import Fleet.Proofs.Resets
import Fleet.Proofs.Inputs
import Fleet.Proofs.Restarts
import Fleet.Proofs.Saving
import Fleet.Proofs.Composition
import Fleet.Proofs.Addresses
import Fleet.Proofs.Documents
import Fleet.Proofs.Files
import Fleet.Proofs.Reloading
import Fleet.Proofs.Regrouping
import Fleet.Proofs.Duplicates
import Fleet.Proofs.Precedence
import Fleet.Proofs.Substitution
import Fleet.Proofs.Stanzas
import Fleet.Proofs.LastCalls
import Fleet.Proofs.Lookups
import Fleet.Proofs.FanOut
import Fleet.Proofs.Violations
import Fleet.Proofs.Selections
import Fleet.Proofs.GroupMoves
import Fleet.Proofs.Identities
import Fleet.Proofs.FleetVariables
import Fleet.Proofs.ServerDocuments
