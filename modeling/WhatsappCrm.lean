import WhatsappCrm.Tickets.Redelivery
import WhatsappCrm.Sla.PolicyChange
import WhatsappCrm.Tickets.Paging
import WhatsappCrm.People.Placement
import WhatsappCrm.Identity.OneEnd
import WhatsappCrm.Identity.SeatCap
import WhatsappCrm.Webhooks.Backlog
import WhatsappCrm.Webhooks.Ingestion
import WhatsappCrm.Webhooks.Stale
import WhatsappCrm.Conversations.StatusLadder
import WhatsappCrm.Ai.Claims
import WhatsappCrm.Ai.Replies
import WhatsappCrm.Ai.Engagement
import WhatsappCrm.Ai.TurnCap
import WhatsappCrm.Ai.Indexed
import WhatsappCrm.Workflows.Chains
import WhatsappCrm.Lifecycle.StillDue
import WhatsappCrm.Billing.SeatRequests
import WhatsappCrm.Billing.SeatReductions
import WhatsappCrm.Billing.Ledger
import WhatsappCrm.Idempotency.AtMostOnce
import WhatsappCrm.Auth.AccountOracle
import WhatsappCrm.Auth.ResetIsFinal
import WhatsappCrm.Usage.Notices
import WhatsappCrm.Domains.Primary
import WhatsappCrm.Realtime.Relay
import WhatsappCrm.Realtime.Outlive
import WhatsappCrm.Tickets.Assignments
import WhatsappCrm.Tickets.PriorityHistory
import WhatsappCrm.Workflows.DryRun
import WhatsappCrm.Domains.Rechecks
import WhatsappCrm.Signup.Convergence
import WhatsappCrm.Signup.FirstAdmin
import WhatsappCrm.Webhooks.Mapper
import WhatsappCrm.Assignment.Hours
import WhatsappCrm.Assignment.Capacity
import WhatsappCrm.Workflows.Reordering
import WhatsappCrm.Workflows.Broken
import WhatsappCrm.Sla.PauseAccounting
import WhatsappCrm.Sla.SweepFairness
import WhatsappCrm.Whatsapp.Templates
import WhatsappCrm.Contacts.FieldDeletion
import WhatsappCrm.People.Teams
import WhatsappCrm.Tickets.EventMapper
import WhatsappCrm.Media.FileName
import WhatsappCrm.Media.ContentType
import WhatsappCrm.Idempotency.RequestHash
import WhatsappCrm.Reporting.DashboardCsv
import WhatsappCrm.Tenancy.Branding
import WhatsappCrm.Ai.HandoffCard
