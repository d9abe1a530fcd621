import Gazetteer.Annotator.Basic
import Gazetteer.Dictionary.Cache
import Gazetteer.Feeder.Basic

/-!
# Annotator/AtSite — annotators with the feeds, caches and feeders of a site
-/

namespace Gazetteer

/-- A feed as the source of a dictionary. -/
def Feed.source (feed : Feed) : Source Site where
  variant := feed.variant
  fingerprint := feed.fingerprint?
  push := feed.push Dictionary.listener
  close := feed.close

/-- A cache file of a site. -/
def Cache.access (cache : Cache) : CacheAccess Site where
  load fingerprint := do
    let site ← get
    Action.ofExcept (cache.load site.files (some fingerprint))
  loadAny := do
    let site ← get
    Action.ofExcept (cache.loadAny site.files)
  save fingerprint d :=
    modify fun site => { site with files := cache.save site.time (some fingerprint) d site.files }

/-- What an annotator asks of the feeder of a site. -/
def Feeder.feeding : Feeding (Site × Feeder) where
  setUp := Feeder.setUp
  feedAll := Feeder.feedAll Dictionary.listener
  begin := Feeder.begin
  feedAhead := Feeder.feedAhead Dictionary.listener
  finish := Feeder.finish

namespace Annotator

/-- The cache of an annotator's directory. -/
def cache (a : Annotator) : Cache := Cache.inDirectory a.directory

/-- Builds the dictionary that serves all documents from the feed of the directory. -/
def startAt (a : Annotator) (resolver : Resolver) :
    Action ((Site × Feeder) × Option Dictionary) Variant :=
  a.start (fun directory => do
    let feed ← resolver.resolve directory
    return feed.source) a.cache.access Feeder.feeding

/-- Annotates a document. -/
def executeAt (a : Annotator) (dictionary : Option Dictionary) (document : Document) :
    Action ((Site × Feeder) × Corpus) (List AnnotationRef) :=
  a.execute dictionary Feeder.feeding document

end Annotator

end Gazetteer
