import Storefront.Number.Binary64
import Storefront.Number.Shortest
import Storefront.Json.Value
import Storefront.Json.Fault
import Storefront.Json.Reader
import Storefront.Json.Record
import Storefront.Unicode.Table
import Storefront.Unicode.Printable
import Storefront.Unicode.Category
import Storefront.Unicode.CombiningClass
import Storefront.Unicode.Decomposition
import Storefront.Unicode.Normalization
import Storefront.Unicode.Bidi
import Storefront.Unicode.Joining
import Storefront.Text.Literal
import Storefront.Sql.Update
import Storefront.Time.Instant
import Storefront.Catalog.Product
import Storefront.Catalog.Category
import Storefront.Bucket.Error
import Storefront.Error
import Storefront.Text.Blank
import Storefront.Media.FileName
import Storefront.Bucket.Key
import Storefront.Access.Bearer
import Storefront.Audit
import Storefront.Config
import Storefront.Media.Sniff
import Storefront.Time.Stamp
import Storefront.Session.Transcript
import Storefront.Text.Punycode
import Storefront.Net.Address
import Storefront.DomainName.Mapping
import Storefront.DomainName.Ascii
import Storefront.Validation.Email
import Storefront.Validation.Report
import Storefront.Account.Credentials
import Storefront.Crypto.Sha2
import Storefront.Text.Base64
import Storefront.Access.Token
import Storefront.Account.User
import Storefront.Media.FileRecord
import Storefront.Shop.Tables
import Storefront.Bucket.Memory
import Storefront.Bucket.Disk
import Storefront.Bucket.Store
import Storefront.Http.MediaType
import Storefront.Text.Utf8
import Storefront.Text.Encoding.SingleByte
import Storefront.Text.Encoding.Label
import Storefront.Text.Encoding.Jis
import Storefront.Text.Encoding.Korean
import Storefront.Text.Encoding.Chinese
import Storefront.Text.Encoding.Decode
import Storefront.Http.Message
import Storefront.Http.Percent
import Storefront.Http.Form
import Storefront.Time.Span
import Storefront.Media.Extension
import Storefront.Shop.State
import Storefront.Shop.Accounts
import Storefront.Shop.Inventory
import Storefront.Shop.Upload
import Storefront.Shop.Routes
import Storefront.Session.Scenario
import Storefront.Validation.Record
import Storefront.Proofs.PartialUpdate
import Storefront.Proofs.ServiceRun
import Storefront.Proofs.Upload
import Storefront.Proofs.AdminOnly
import Storefront.Proofs.FreshIds
import Storefront.Proofs.CatalogMaps
import Storefront.Proofs.CatalogApi
import Storefront.Proofs.BucketObjects
import Storefront.Proofs.ImageUrls
import Storefront.Proofs.ServedObjects
import Storefront.Proofs.Utf8Bytes
import Storefront.Proofs.Base64Codec
import Storefront.Proofs.JsonStrings
import Storefront.Proofs.JsonObjects
import Storefront.Proofs.TokenRoundTrip
import Storefront.Proofs.Accounts
import Storefront.Proofs.AccountRequests
import Storefront.Proofs.UploadChecks
import Storefront.Proofs.SafeKeys
import Storefront.Proofs.EnvironmentSettings
import Storefront.Proofs.TokenExpiry
import Storefront.Proofs.ConcurrentUploads
import Storefront.Proofs.UploadStaging
import Storefront.Proofs.UploadCalls
import Storefront.Proofs.BearerHeader
import Storefront.Proofs.ImageKeys
import Storefront.Proofs.ProductRemoval
import Storefront.Proofs.SafeNames
