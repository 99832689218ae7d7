import AccreditationBackend.Competitions.Matches
import AccreditationBackend.AccreditationConfig.Lookups
import AccreditationBackend.Quotas.Locking
import AccreditationBackend.AccessControl.Service
import AccreditationBackend.System.Operations
import AccreditationBackend.Requests.Capacity
import AccreditationBackend.AccessControl.SingleUse
import AccreditationBackend.AccessControl.Gate
import AccreditationBackend.Requests.Badges
import AccreditationBackend.Requests.Journal
import AccreditationBackend.Requests.Duplicates
import AccreditationBackend.Requests.Decisions
import AccreditationBackend.Requests.Isolation
import AccreditationBackend.Requests.WakeUps
import AccreditationBackend.AccessControl.Finality
import AccreditationBackend.AccessControl.Sync
import AccreditationBackend.Kernel.Instants
import AccreditationBackend.Iam.Rows
import AccreditationBackend.Iam.Permissions
import AccreditationBackend.Iam.Accounts
import AccreditationBackend.Iam.Service
import AccreditationBackend.Foundation.Lineage
import AccreditationBackend.Iam.Sessions
import AccreditationBackend.Iam.Rotation
import AccreditationBackend.Iam.Lockout
import AccreditationBackend.Iam.BruteForce
import AccreditationBackend.Iam.Resets
import AccreditationBackend.Iam.Operations
import AccreditationBackend.Iam.Administration
import AccreditationBackend.Iam.Guards
import AccreditationBackend.Iam.Privileges
import AccreditationBackend.Iam.Deletion
import AccreditationBackend.Iam.AllOrNothing
import AccreditationBackend.Documents.Current
import AccreditationBackend.Accreditations.Validity
import AccreditationBackend.Accreditations.Issuance
import AccreditationBackend.Requests.Validations
import AccreditationBackend.Requests.Cancellations
import AccreditationBackend.Requests.Overrides
import AccreditationBackend.Quotas.Replacement
import AccreditationBackend.Quotas.Releases
import AccreditationBackend.Quotas.InForce
import AccreditationBackend.Requests.OpenComplements
import AccreditationBackend.Reporting.Agreement
import AccreditationBackend.Accreditations.SignedPayload
import AccreditationBackend.Kernel.Pagination
import AccreditationBackend.Competitions.Closing
import AccreditationBackend.Reporting.Scopes
import AccreditationBackend.AccessControl.Batches
import AccreditationBackend.AccessControl.Identity
import AccreditationBackend.Iam.FailedLogins
import AccreditationBackend.Requests.Tracking
import AccreditationBackend.Notifications.MatchUpdates
import AccreditationBackend.Accreditations.Canonical
import AccreditationBackend.Documents.StorageKeys
import AccreditationBackend.Foundation.Stability
import AccreditationBackend.Foundation.Ledger
import AccreditationBackend.Audit.Truth
import AccreditationBackend.Audit.Announcements
import AccreditationBackend.Audit.Listener
import AccreditationBackend.Audit.Journal
import AccreditationBackend.Audit.Recording
import AccreditationBackend.Audit.Trail
import AccreditationBackend.Documents.Uploads
import AccreditationBackend.Notifications.Owners
import AccreditationBackend.Requests.Finished
import AccreditationBackend.AccessControl.Revoked
import AccreditationBackend.Iam.Suspension
import AccreditationBackend.System.Authors
import AccreditationBackend.Foundation.Mediation
import AccreditationBackend.Http.Mediation
import AccreditationBackend.Http.OwnReads
