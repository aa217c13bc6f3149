import BlogRouting.Routing.Cache
import BlogRouting.Routing.Resolve
import BlogRouting.Site.Config

/-!
# Sites

A site has a configuration and a cache of permalinks. It resolves requests, links to content, and
takes a new format, which counts from then on. Each operation gives the site afterwards.
-/

namespace BlogRouting

structure Site where
  config : Config
  cache : PermalinkCache := {}
  deriving DecidableEq, Repr

/-- Why a site cannot resolve a request. -/
inductive SiteError where
  | compile (error : CompileError)
  | resolve (failure : StoreFailure)
  deriving DecidableEq, Repr

def SiteError.message : SiteError → String
  | compile error => error.message
  | resolve failure => failure.message

namespace Site

def ofConfig (config : Config) : Site := { config }

/-- The permalink of the current format. -/
def permalink (site : Site) : Except CompileError SharedPermalink × Site :=
  let (result, cache) := site.cache.get site.config.format
  (result, { site with cache })

/-- Takes a new format. One that does not compile changes nothing. -/
def save (site : Site) (format : String) : Except CompileError Unit × Site :=
  match Permalink.compile format with
  | .error e => (.error e, site)
  | .ok _ =>
    (.ok (), { config := { site.config with format }, cache := site.cache.rebuild })

/-- The URL of the content under the current format. -/
def urlFor (site : Site) (content : Content) : Except CompileError Url × Site :=
  let (result, after) := site.permalink
  (result.map fun shared =>
    absolute site.config.baseUrl (shared.permalink.template.generate content), after)

/-- What to do with a request. -/
def resolve (site : Site) (stores : Stores) (rawPath : String) :
    Except SiteError Outcome × Site :=
  match site.cache.get site.config.format with
  | (.error e, cache) => (.error (.compile e), { site with cache })
  | (.ok current, cache) =>
    match cache.legacy with
    | (.error e, cache) => (.error (.compile e), { site with cache })
    | (.ok legacy, cache) =>
      let router : Router :=
        { permalink := current.permalink
          legacy := legacy.permalink
          baseUrl := site.config.baseUrl
          stores }
      ((router.resolve rawPath).mapError .resolve, { site with cache })

end Site

end BlogRouting
