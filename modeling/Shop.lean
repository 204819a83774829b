import Shop.Catalog.Creation
import Shop.Catalog.Patch
import Shop.Catalog.Rehearsal
import Shop.Discount
import Shop.Event.Dispatch
import Shop.Event.Loop
import Shop.Http.Serve
import Shop.Page
import Shop.Password.Encoded
import Shop.Proofs.Catalog.Faults
import Shop.Proofs.Event.Deliveries
import Shop.Proofs.Event.Draining
import Shop.Proofs.Http.ErrorBodies
import Shop.Proofs.Picture.Renditions
import Shop.Proofs.Rule.Describing
import Shop.Proofs.Service.Acceptance
import Shop.Proofs.Service.Compositions
import Shop.Proofs.Service.Consistency
import Shop.Proofs.Service.Duplicates
import Shop.Proofs.Service.EarlyRefusals
import Shop.Proofs.Service.History
import Shop.Proofs.Service.InternalErrors
import Shop.Proofs.Service.Paging
import Shop.Proofs.Service.Passwords
import Shop.Proofs.Service.ReadBack
import Shop.Proofs.Service.Restriction
import Shop.Proofs.Service.RootArchiving
import Shop.Proofs.Service.Secrecy
import Shop.Proofs.Service.Selection
import Shop.Proofs.Service.Showing
import Shop.Proofs.Service.Subscriptions
import Shop.Proofs.Service.Telling
import Shop.Proofs.Service.Updates
import Shop.Proofs.Service.Values
import Shop.Proofs.Variant.Calls
import Shop.User
import Shop.Variant.Build
import Shop.Webhook
