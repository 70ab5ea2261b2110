import DjangoFoundation.Lib.Run
import DjangoFoundation.Lib.Table
import DjangoFoundation.Lib.Cache
import DjangoFoundation.Lib.Locks
import DjangoFoundation.Common.Base
import DjangoFoundation.Common.Crypto
import DjangoFoundation.Common.Exceptions
import DjangoFoundation.Common.Logging
import DjangoFoundation.Common.Text
import DjangoFoundation.Accounts.Models
import DjangoFoundation.Authentication.Models
import DjangoFoundation.Database
import DjangoFoundation.Authentication.Services
import DjangoFoundation.Accounts.Services
import DjangoFoundation.Accounts.BanRaces
import DjangoFoundation.Accounts.Lifecycle
import DjangoFoundation.Accounts.Identity
import DjangoFoundation.Accounts.Registration
import DjangoFoundation.ApiKeys.Services
import DjangoFoundation.Authentication.Requests
import DjangoFoundation.Api.Views
import DjangoFoundation.Authentication.Backends
import DjangoFoundation.Security.Services
import DjangoFoundation.Authentication.Login
import DjangoFoundation.Authentication.TwoFactor
import DjangoFoundation.Authentication.TwoFactorRaces
import DjangoFoundation.Authentication.Tokens
import DjangoFoundation.Authentication.Passwords
import DjangoFoundation.Authorization.Services
import DjangoFoundation.Core.Idempotency
import DjangoFoundation.Api.ApiKeys
import DjangoFoundation.Webhooks.Tasks
import DjangoFoundation.Proofs.Revocation
import DjangoFoundation.Proofs.Lifecycle
import DjangoFoundation.Proofs.Bans
import DjangoFoundation.Proofs.BanRaces
import DjangoFoundation.Proofs.Deletion
import DjangoFoundation.Proofs.Gate
import DjangoFoundation.Proofs.Sessions
import DjangoFoundation.Proofs.Identity
import DjangoFoundation.Proofs.Permissions
import DjangoFoundation.Proofs.Idempotency
import DjangoFoundation.Proofs.Idempotent
import DjangoFoundation.Proofs.Webhooks.Moves
import DjangoFoundation.Proofs.Webhooks.Finished
import DjangoFoundation.Proofs.Webhooks.Retries
import DjangoFoundation.Proofs.Webhooks.Backoff
import DjangoFoundation.Proofs.Webhooks.Stranded
import DjangoFoundation.Proofs.Logins.Throttle
import DjangoFoundation.Proofs.Logins.Attempts
import DjangoFoundation.Proofs.Logins.Locks
import DjangoFoundation.Proofs.Logins.Bound
import DjangoFoundation.Proofs.Logins.Responses
import DjangoFoundation.Proofs.Logins.Backends
import DjangoFoundation.Proofs.Identifiers
import DjangoFoundation.Proofs.TwoFactor.Codes
import DjangoFoundation.Proofs.TwoFactor.Setup
import DjangoFoundation.Proofs.TwoFactor.Moves
import DjangoFoundation.Proofs.TwoFactor.Sound
import DjangoFoundation.Proofs.Tokens.Moves
import DjangoFoundation.Proofs.Tokens.Alone
import DjangoFoundation.Proofs.Tokens.Once
import DjangoFoundation.Proofs.Tokens.Superseded
import DjangoFoundation.Proofs.Passwords.Writes
import DjangoFoundation.Proofs.Passwords.Alone
import DjangoFoundation.Proofs.Passwords.Escapes
import DjangoFoundation.Proofs.ApiKeys.Rehash
import DjangoFoundation.Proofs.ApiKeys.AtRest
import DjangoFoundation.Proofs.ApiKeys.Issued
import DjangoFoundation.ApiKeys.Permissions
import DjangoFoundation.Proofs.ApiKeys.Scopes
import DjangoFoundation.Core.SettingRaces
import DjangoFoundation.Proofs.Settings.Races
import DjangoFoundation.Api.Settings
import DjangoFoundation.Proofs.Settings.Readers
import DjangoFoundation.Common.Rows
import DjangoFoundation.Audit.Services
import DjangoFoundation.Api.Audited
import DjangoFoundation.Common.Admin
import DjangoFoundation.Proofs.Audit.Atomic
import DjangoFoundation.Proofs.Audit.Images
import DjangoFoundation.Authentication.Cleanup
import DjangoFoundation.Lib.Prune
import DjangoFoundation.Proofs.BanTask
import DjangoFoundation.Proofs.Cleanup
import DjangoFoundation.Proofs.Fingerprints
import DjangoFoundation.Proofs.IdempotencyExpiry
import DjangoFoundation.Proofs.Logins.AccountLock
import DjangoFoundation.Security.FailureRaces
import DjangoFoundation.Proofs.Logins.FailureRaces
import DjangoFoundation.Proofs.Logins.Reset
import DjangoFoundation.Proofs.Pseudonyms
import DjangoFoundation.Proofs.Subscribers
import DjangoFoundation.Api.SettingStore
import DjangoFoundation.Audit.Records
import DjangoFoundation.Common.Url
import DjangoFoundation.Proofs.Audit.Redaction
import DjangoFoundation.Proofs.Bootstrap
import DjangoFoundation.Proofs.Settings.Defaults
import DjangoFoundation.Proofs.Settings.Store
import DjangoFoundation.Proofs.Webhooks.Batch
import DjangoFoundation.Common.JsonText
import DjangoFoundation.Common.Network
import DjangoFoundation.Lib.Codes
import DjangoFoundation.Lib.IpText
import DjangoFoundation.Lib.Select
import DjangoFoundation.Notifications.Services
import DjangoFoundation.Proofs.ClientAddress
import DjangoFoundation.Proofs.JsonText
import DjangoFoundation.Proofs.Notifications.Isolation
import DjangoFoundation.Proofs.Notifications.Lifecycle
import DjangoFoundation.Proofs.Webhooks.Signed
import DjangoFoundation.Accounts.Letters
import DjangoFoundation.Authentication.SessionCleanup
import DjangoFoundation.Common.Email
import DjangoFoundation.Files.Services
import DjangoFoundation.Proofs.Emails
import DjangoFoundation.Proofs.Files
import DjangoFoundation.Proofs.Letters.Credentials
import DjangoFoundation.Proofs.Retention
import DjangoFoundation.Api.Authorization
import DjangoFoundation.Proofs.Authority
import DjangoFoundation.Proofs.Webhooks.Accounted
