import DeckPress.Code.Editor
import DeckPress.Presentation

/-!
# Modules generated from a deck

The configuration, the entry of the application, the list of slides, the setup and the editor loader, and
the markdown of each slide. Each is computed from the presentation alone; only whether setup files exist
is asked of the disk when the setup is generated.
-/

namespace DeckPress.Presentation

open Text

/-- The title of the deck: declared, or that of the first slide. -/
def title (p : Presentation) : String :=
  match (p.headmatter.get? "title").bind Json.str? with
  | some title => title
  | none => (p.slides.head?.bind fun s => s.source.title?).getD "Slidev"

/-- The configuration that counts where the deck declares nothing. -/
def configDefaults (p : Presentation) : Fields :=
  .ofList [("title", .str p.title), ("theme", .str p.layout.theme),
    ("aspectRatio", .float (.nearest false 16 9)), ("canvasWidth", .int 980),
    ("colorSchema", .str "auto"), ("highlighter", .str "prism"), ("routerMode", .str "history"),
    ("download", .bool false), ("info", .bool false)]

/-- The configuration: the front matter of the deck over the defaults, but with the theme in use. -/
def configs (p : Presentation) : String :=
  let fields := p.configDefaults.override (p.headmatter.filter (·.1 ≠ "theme"))
  "export default " ++ Json.text (.obj fields) ++ "\n"

/-- An import of a module for its effects, or under a name. -/
def importLine (name : Option String) (file : String) : String :=
  match name with
  | some name => "import " ++ name ++ " from '" ++ file ++ "'\n"
  | none => "import '" ++ file ++ "'\n"

/-- The entry of the application. -/
def entry (p : Presentation) : String :=
  "import \x7b createApp \x7d from 'vue'\n" ++
  "import \x7b createRouter, createWebHistory \x7d from 'vue-router'\n" ++
  importLine (some "App") (p.layout.clientRoot / "App.vue").slashed ++
  importLine (some "slides") (ModuleId.text .slides) ++
  importLine (some "setup") (ModuleId.text .setups) ++
  String.join (p.styles.map fun style => importLine none style.slashed) ++
  importLine none (ModuleId.text .stylesheet) ++
  "\n" ++
  "export const total = " ++ toString p.visible.length ++ "\n" ++
  "const router = createRouter(\x7b\n" ++
  "  history: createWebHistory(),\n" ++
  "  routes: [\n" ++
  "    \x7b path: '/', redirect: '/1' \x7d,\n" ++
  "    ...slides.map(s => (\x7b path: \x60/$\x7bs.no\x7d\x60, component: s.component, meta: s.meta \x7d)),\n" ++
  "  ],\n" ++
  "\x7d)\n" ++
  "const app = createApp(App)\n" ++
  "app.use(router)\n" ++
  "setup(app)\n" ++
  "app.mount('#app')\n"

/-- The front matter and the title of a slide as it is shown. -/
def describe (s : PresentedSlide) (module : String) : Except Error (Fields × Option String) := do
  match s.file with
  | none => return (s.source.frontMatter, s.source.title?)
  | some _ =>
    let (fields, body) ← (Deck.splitFrontMatter (← s.markdown module)).mapError (.compile module)
    match (fields.get? "title").bind Json.str? with
    | some title => return (fields, some title)
    | none => return (fields, Deck.firstHeading? body)

def optionalText : Option String → Json
  | some s => .str s
  | none => .null

/-- What the list of slides says about a slide. -/
def slideMeta (s : PresentedSlide) (module : String) : Except Error Json := do
  let (fields, title) ← describe s module
  return .obj (Fields.ofList [("frontmatter", .obj fields), ("title", optionalText title),
    ("note", optionalText s.source.note?), ("index", .int s.source.index),
    ("start", .int s.source.startLine), ("end", .int s.source.endLine)])

/-- The entry of a shown slide in the list of slides. -/
def slideEntry (number : Nat) (info : Json) : String :=
  let n := toString number
  "  \x7b no: " ++ n ++ ", path: '" ++ n ++ "', component: n" ++ n ++ ", meta: " ++ info.text ++ " \x7d,\n"

/-- The list of slides. -/
def slideList (p : Presentation) : Except Error String := do
  let entries ← p.visible.mapM fun (number, s) => do
    return slideEntry number (← slideMeta s (ModuleId.text .slides))
  let imports := p.visible.map fun (number, _) =>
    importLine (some ("n" ++ toString number)) (ModuleId.text (.slide number))
  return String.join imports ++ "\nexport const slides = [\n" ++ String.join entries ++
    "]\nexport default slides\n"

/-- The setup, which calls the setup files in order. All of them must exist. -/
def setups (d : Disk) (p : Presentation) : Except Error String :=
  match p.setupFiles.find? (!d.isFile ·) with
  | some missing => .error (.resolution (ModuleId.text .setups) (.missingSetup missing))
  | none =>
    let numbered := numberFrom 0 p.setupFiles
    .ok (String.join (numbered.map fun (i, file) =>
        importLine (some ("setup" ++ toString i)) file.slashed) ++
      "\nexport default function setup(app) \x7b\n" ++
      String.join (numbered.map fun (i, _) => "  setup" ++ toString i ++ "(app)\n") ++
      "\x7d\n")

/-- The module in place of the editor loader where there is no editor. -/
def noEditor : String := "export default undefined\n"

/-- The editor loader. -/
def editorLoader : String :=
  "import * as monaco from 'monaco-editor'\n" ++
  "import EditorWorker from 'monaco-editor/esm/vs/editor/editor.worker?worker'\n" ++
  "import JsonWorker from 'monaco-editor/esm/vs/language/json/json.worker?worker'\n" ++
  "import CssWorker from 'monaco-editor/esm/vs/language/css/css.worker?worker'\n" ++
  "import HtmlWorker from 'monaco-editor/esm/vs/language/html/html.worker?worker'\n" ++
  "import TsWorker from 'monaco-editor/esm/vs/language/typescript/ts.worker?worker'\n" ++
  "\n" ++
  "self.MonacoEnvironment = \x7b\n" ++
  "  getWorker(_, label) \x7b\n" ++
  "    if (label === 'json') return new JsonWorker()\n" ++
  "    if (label === 'css' || label === 'scss' || label === 'less') return new CssWorker()\n" ++
  "    if (label === 'html' || label === 'handlebars' || label === 'razor') return new HtmlWorker()\n" ++
  "    if (label === 'typescript' || label === 'javascript') return new TsWorker()\n" ++
  "    return new EditorWorker()\n" ++
  "  \x7d,\n" ++
  "\x7d\n" ++
  "\n" ++
  "export default monaco\n"

/-- Whether one of the slides asks for an editor. Slides behind the first that does are not read. -/
def wantsEditor (module : String) : List (Nat × PresentedSlide) → Except Error Bool
  | [] => .ok false
  | (_, s) :: rest => do
    if Code.Editor.wanted (← s.markdown module) then return true
    wantsEditor module rest

/-- The editor loader, if editors are on and a slide asks for one. -/
def editor (p : Presentation) (enabled : Bool) : Except Error String := do
  if !enabled then return noEditor
  return if ← wantsEditor (ModuleId.text .monaco) p.visible then editorLoader else noEditor

/-- The markdown of a shown slide. -/
def slideModule (p : Presentation) (number : Nat) : Except Error String :=
  let id := ModuleId.text (.slide number)
  match p.slide? number with
  | some s => s.markdown id
  | none => .error (.resolution id (.noSlide number))

/-- Generates a module; none for one that does not come from the deck. -/
def provide? (d : Disk) (editors : Bool) (p : Presentation) : ModuleId → Except Error (Option String)
  | .configs => .ok (some p.configs)
  | .entry => .ok (some p.entry)
  | .slides => p.slideList.map some
  | .setups => (setups d p).map some
  | .monaco => (p.editor editors).map some
  | .slide number => (p.slideModule number).map some
  | .stylesheet | .sharedState | .element _ => .ok none

end DeckPress.Presentation
