import BlogRouting.Content.Reading
import BlogRouting.Proofs.Content.Lookups
import BlogRouting.Proofs.Content.Revisions
import BlogRouting.Proofs.Routing.Canonical
import BlogRouting.Proofs.Routing.Generated
import BlogRouting.Proofs.Routing.Legacy
import BlogRouting.Proofs.Routing.Served
import BlogRouting.Proofs.Routing.Steps
import BlogRouting.Proofs.Template.Accepted
import BlogRouting.Proofs.Template.Cutting
import BlogRouting.Proofs.Template.Matching
import BlogRouting.Proofs.Template.Rendering
import BlogRouting.Proofs.Text.Escapes
import BlogRouting.Proofs.Text.Numerals
import BlogRouting.Proofs.Text.SingleSlashes
import BlogRouting.Proofs.Url.Addresses
import BlogRouting.Proofs.Url.WebPath
import BlogRouting.Site.Basic
import BlogRouting.Proofs.Template.Feeds
import BlogRouting.Proofs.Content.Paths
import BlogRouting.Proofs.Content.Stores
import BlogRouting.Proofs.Routing.Revised
import BlogRouting.Proofs.Text.Spellings
import BlogRouting.Proofs.Routing.Spellings
import BlogRouting.Proofs.Routing.Caching
import BlogRouting.Proofs.Site.Histories
import BlogRouting.Proofs.Site.Loaded
import BlogRouting.Proofs.Redirect.ShortCodes
import BlogRouting.Proofs.Redirect.Tables
import BlogRouting.Proofs.Template.Segmentation
import BlogRouting.Proofs.Url.Given
import BlogRouting.Proofs.Redirect.Reachable
import BlogRouting.Proofs.Redirect.Targets
import BlogRouting.Proofs.Routing.Attempts
import BlogRouting.Proofs.Routing.DirectLegacy
import BlogRouting.Proofs.Routing.Drafts
import BlogRouting.Proofs.Content.Queries
import BlogRouting.Proofs.Routing.Failures
import BlogRouting.Proofs.Text.Decoding
import BlogRouting.Proofs.Routing.Beneath
import BlogRouting.Proofs.Routing.Sharing
import BlogRouting.Proofs.Routing.Joined
import BlogRouting.Proofs.Site.Saving
import BlogRouting.Proofs.Content.Candidates
import BlogRouting.Proofs.Routing.Dates
import BlogRouting.Proofs.Template.Refused
import BlogRouting.Proofs.Redirect.Climbing
import BlogRouting.Proofs.Files.Ascent
import BlogRouting.Proofs.Site.Nearest
import BlogRouting.Proofs.Url.Rereading
import BlogRouting.Proofs.Site.Closing
import BlogRouting.Proofs.Text.Runs
