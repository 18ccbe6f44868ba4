import SourceChunks.Chunk.Enriched
import SourceChunks.Context.Domain
import SourceChunks.Metrics.Signals

/-! The context of a chunk: the lines around it, its layer, the frameworks it shows and its
domain. -/

namespace SourceChunks.Context

open Pattern

structure Params where
  /-- How many lines on each side are looked at. -/
  radius : Int := 5
  /-- How many of them are shown. -/
  preview : Int := 3

/-! ### Layers -/

def pathWords : List (Layer × List Text) := [
  (.presentation, ["controller", "handler", "route", "view", "api"]),
  (.service, ["service"]),
  (.business, ["business", "logic", "manager", "domain"]),
  (.data, ["repository", "dao", "model", "entity", "database", "persistence", "migration"]),
  (.infrastructure, ["util", "helper", "common", "shared", "infra"]),
  (.configuration, ["config", "setting"])]

def presentationWord : Pattern :=
  wordEdge ++
    (lit "http" ++ opt (lit "s") <|> oneOf ["request", "response", "router", "res.send", "render"]) ++ wordEdge

def dataWord : Pattern := wholeWord ["database", "query", "select", "insert", "update", "delete"]

/-- The layer of a chunk: by its path if that tells, or else by its text. -/
def layer (content path : Text) : Layer :=
  if Metrics.isTestPath path then .test
  else match pathWords.find? fun w => Text.hasAny (lowercase path) w.2 with
    | some (l, _) => l
    | none =>
      let text := lowercase content
      if presentationWord.occursIn text then .presentation
      else if dataWord.occursIn text then .data
      else .business

/-! ### Frameworks -/

def anyCaseWord (word : String) : Pattern := wordEdge ++ anyCase word ++ wordEdge

def frameworkMarks : List (String × Pattern) := [
  ("React", wholeWord ["React"] <|>
    (wordEdge ++ lit "use" ++ oneOf ["State", "Effect", "Context", "Memo"] ++ wordEdge) <|>
    (lit ".jsx" ++ wordEdge)),
  ("Vue.js", wholeWord ["Vue"] <|>
    (wordEdge ++ lit "v-" ++ oneOf ["if", "for", "model", "bind", "on"] ++ wordEdge) <|>
    (lit "from" ++ gap ++ anyOf "'\"" ++ lit "vue" ++ anyOf "'\"")),
  ("Angular", wholeWord ["Angular"] <|> (oneOf ["@Component", "@Injectable"] ++ wordEdge) <|> lit "@angular/"),
  ("Express.js", wholeWord ["express"] <|>
    (wordEdge ++ lit "app." ++ oneOf ["get", "post", "put", "delete", "use"] ++ blanks ++ lit "(")),
  ("Fastify", wholeWord ["fastify"]),
  ("Django", anyCaseWord "django" <|> (anyCase "models.Model" ++ wordEdge) <|> anyCaseWord "HttpResponse"),
  ("Flask", anyCaseWord "flask" <|> (anyCase "@app.route" ++ wordEdge) <|> (wordEdge ++ anyCase "Flask(")),
  ("FastAPI", anyCaseWord "fastapi" <|> (anyCase "@app.get" ++ wordEdge) <|> (wordEdge ++ anyCase "FastAPI(")),
  ("Spring Boot",
    lit "@" ++ oneOf ["SpringBootApplication", "RestController", "Service", "Repository"] ++ wordEdge),
  ("JPA/Hibernate", (lit "@" ++ oneOf ["Entity", "Table"] ++ wordEdge) <|> wholeWord ["JpaRepository"]),
  ("Mongoose", anyCaseWord "mongoose" <|> (wordEdge ++ anyCase "new" ++ gap ++ anyCase "Schema(")),
  ("Sequelize", anyCaseWord "sequelize"),
  ("Prisma", anyCaseWord "prisma" <|> anyCase "@prisma/"),
  ("Jest", anyCaseWord "jest" <|>
    (notAfter (wordOr "$.") ++ oneOfAnyCase ["describe", "it", "expect"] ++ blanks ++ lit "(")),
  ("Mocha/Chai", wordEdge ++ oneOfAnyCase ["mocha", "chai"] ++ wordEdge),
  ("PyTest", anyCaseWord "pytest" <|> anyCase "@pytest.")]

def frameworks (content : Text) : List Text :=
  (frameworkMarks.filter fun m => m.2.occursIn content).map fun m => m.1.toList

/-! ### The context of a chunk -/

def surrounding (p : Params) (ls : List Text) (first last : Int) : Text :=
  let (before, after) := surroundingLines ls first last p.radius
  let shownBefore := if p.preview = 0 then [] else slice before (-p.preview) before.length
  let shownAfter := slice after 0 p.preview
  let ahead : List Text := if shownBefore.isEmpty then [] else [("Before:\n" : Text) ++ Text.ofLines shownBefore]
  let behind : List Text := if shownAfter.isEmpty then [] else [("After:\n" : Text) ++ Text.ofLines shownAfter]
  Text.ofLines (ahead ++ behind)

/-- The context of a chunk in its file, beside the chunks with the given identities. -/
def analyse (p : Params) (c : EnrichedChunk) (file : Text) (ids : List Text) : ContextInfo :=
  let ls := Text.lines file
  { surrounding := surrounding p ls c.base.first c.base.last, layer := layer c.content c.path,
    file := { totalLines := ls.length, fileSize := file.length, siblings := ids.filter (· != c.id) },
    frameworks := frameworks c.content, business := (Domain.ofChunk c.content c.path).map (·.tag) }

end SourceChunks.Context
