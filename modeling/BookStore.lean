import BookStore.Async.Program
import BookStore.Async.Pool
import BookStore.Async.Logic
import BookStore.Async.Sends
import BookStore.Async.Budget
import BookStore.Async.Carry
import BookStore.Async.Sequential
import BookStore.Async.Parallel
import BookStore.Async.Outcomes
import BookStore.Tables
import BookStore.Text
import BookStore.Schema
import BookStore.Requests
import BookStore.Statements
import BookStore.Services.Checkout
import BookStore.Services.Hooks
import BookStore.Services.Admin
import BookStore.Server
import BookStore.Footprint
import BookStore.Effects
import BookStore.Rules
import BookStore.Inventory
import BookStore.OrderItems
import BookStore.OrderStatus
import BookStore.Availability
import BookStore.JobRedelivery
import BookStore.NoOversell
import BookStore.KeysFollow
import BookStore.KeyAgreement
import BookStore.PaidBacked
import BookStore.PaymentWindow
import BookStore.PaymentLedger
import BookStore.CleanupRelease
import BookStore.WebhookOnce
import BookStore.OutgoingTransfer
import BookStore.Fulfilment
import BookStore.OrderHistory
import BookStore.Checkout.Numbers
import BookStore.Checkout.Reservation
import BookStore.Checkout.Restoration
import BookStore.Checkout.Admission
import BookStore.Checkout.Jobs
import BookStore.Checkout.FailedJobs
import BookStore.PaymentCompensation
import BookStore.Auth.Statements
import BookStore.Auth.Services
import BookStore.Auth.Logout
import BookStore.Auth.AccessTokens
import BookStore.Auth.Rotation
import BookStore.Auth.Devices
import BookStore.Cache.Store
import BookStore.Cache.Entries
import BookStore.Cache.VersionBump
import BookStore.Catalog.Tables
import BookStore.Catalog.Queries
import BookStore.Catalog.Service
import BookStore.Catalog.Reads
import BookStore.Catalog.Listing
import BookStore.Catalog.Mutations
import BookStore.Shopper.Orders
import BookStore.Shopper.Cleanup
import BookStore.Shopper.CartService
import BookStore.Shopper.CartPrivacy
import BookStore.Shopper.CartAdds
import BookStore.Shopper.CartMerge
import BookStore.Shopper.CartQuantities
import BookStore.Permission.Agreement
import BookStore.Procurement.Safety
import BookStore.Procurement.StateMachine
import BookStore.Procurement.Reports
import BookStore.Procurement.Arithmetic
import BookStore.Catalog.BookEdits
import BookStore.Catalog.Slugs
import BookStore.Catalog.AuthorLinks
import BookStore.Catalog.RowOrder
import BookStore.Catalog.Ranking
import BookStore.Catalog.SimilarBooks
import BookStore.UserEvents.Recommend
import BookStore.UserEvents.Scores
import BookStore.Forest
import BookStore.Catalog.CategoryTree
import BookStore.Pages
import BookStore.Catalog.Visibility
import BookStore.Catalog.AdminLists
import BookStore.User.Addresses
import BookStore.Async.LastStatement
import BookStore.Auth.DeviceCap
import BookStore.Email.Statements
import BookStore.Email.Services
import BookStore.Async.Amid
import BookStore.RateLimit
import BookStore.Email.ResendQuota
import BookStore.Email.Retries
import BookStore.Async.Everywhere
import BookStore.Email.ResetOnce
import BookStore.Loops
import BookStore.Pinecone.Reindex
import BookStore.Sql
import BookStore.VariantUpdates
import BookStore.Numerals
import BookStore.Catalog.CacheKeys
import BookStore.Catalog.SlugSearch
import BookStore.Like
import BookStore.Catalog.Keywords
import BookStore.WeightedSums
import BookStore.Isbn
import BookStore.Catalog.SlugText
import BookStore.OrderTotals
import BookStore.Email.Withdrawn
import BookStore.Email.NewestLink
import BookStore.Catalog.HomePage
import BookStore.Account.Runs
import BookStore.Shopper.WishlistRuns
import BookStore.QrPayment
import BookStore.Async.Expiring
import BookStore.Cache.SharedKeys
import BookStore.Cache.Shared
import BookStore.Cache.SharedRuns
import BookStore.UserEvents.Merge
import BookStore.Catalog.SemanticSearch
import BookStore.Catalog.SemanticPages
import BookStore.Percent
import BookStore.UrlTexts
