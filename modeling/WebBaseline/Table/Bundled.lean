import WebBaseline.Table.Basic

/-!
# The bundled table

The features known to the library itself, by the language they belong to.
-/

namespace WebBaseline.Table

def cssFeatures : List Feature :=
  [{ id := "grid"
     name := "CSS Grid"
     description := "CSS Grid Layout"
     group := "css"
     tier := .widely
     keys :=
        ["css.properties.display.grid",
         "css.properties.display.inline-grid",
         "css.properties.grid-template-columns",
         "css.properties.grid-template-rows",
         "css.properties.grid-template-areas"]
     lowDate := some "2017-10-17"
     highDate := some "2020-04-17"
     support := [("chrome", "57"), ("edge", "16"), ("firefox", "52"), ("safari", "10.1")]
     spec := some "https://drafts.csswg.org/css-grid-1/" },
   { id := "subgrid"
     name := "CSS Subgrid"
     description := "CSS Grid Subgrid"
     group := "css"
     tier := .newly
     keys :=
        ["css.properties.grid-template-columns.subgrid",
         "css.properties.grid-template-rows.subgrid"]
     lowDate := some "2023-09-15"
     support := [("chrome", "117"), ("edge", "117"), ("firefox", "71"), ("safari", "16")]
     spec := some "https://drafts.csswg.org/css-grid-2/" },
   { id := "container-queries"
     name := "Container Queries"
     description := "CSS Container Queries"
     group := "css"
     tier := .newly
     keys :=
        ["css.at-rules.container",
         "css.properties.container",
         "css.properties.container-type",
         "css.properties.container-name"]
     lowDate := some "2023-02-14"
     support := [("chrome", "105"), ("edge", "105"), ("firefox", "110"), ("safari", "16")]
     spec := some "https://drafts.csswg.org/css-contain-3/" },
   { id := "word-break-auto-phrase"
     name := "word-break: auto-phrase"
     description := "CSS word-break auto-phrase value"
     group := "css"
     tier := .limited
     keys :=
        ["css.properties.word-break.auto-phrase"]
     support := [("chrome", "119"), ("edge", "119")]
     spec := some "https://drafts.csswg.org/css-text-4/#valdef-word-break-auto-phrase" },
   { id := "has-selector"
     name := ":has() selector"
     description := "CSS :has() relational pseudo-class"
     group := "css"
     tier := .newly
     keys :=
        ["css.selectors.has"]
     lowDate := some "2023-12-19"
     support := [("chrome", "105"), ("edge", "105"), ("firefox", "121"), ("safari", "15.4")]
     spec := some "https://drafts.csswg.org/selectors-4/#relational" },
   { id := "focus-visible"
     name := ":focus-visible"
     description := "CSS :focus-visible pseudo-class"
     group := "css"
     tier := .widely
     keys :=
        ["css.selectors.focus-visible"]
     lowDate := some "2022-03-14"
     highDate := some "2024-09-14"
     support := [("chrome", "86"), ("edge", "86"), ("firefox", "85"), ("safari", "15.4")]
     spec := some "https://drafts.csswg.org/selectors-4/#the-focus-visible-pseudo" },
   { id := "user-valid"
     name := ":user-valid and :user-invalid"
     description := "Validity pseudo-classes applied after user interaction"
     group := "css"
     tier := .newly
     keys :=
        ["css.selectors.user-valid",
         "css.selectors.user-invalid"]
     lowDate := some "2023-11-02"
     support := [("chrome", "119"), ("edge", "119"), ("firefox", "88"), ("safari", "16.5")]
     spec := some "https://drafts.csswg.org/selectors-4/#user-pseudos" },
   { id := "text-wrap-balance"
     name := "text-wrap: balance"
     description := "Balanced line lengths for short blocks of text"
     group := "css"
     tier := .newly
     keys :=
        ["css.properties.text-wrap.balance"]
     lowDate := some "2024-05-13"
     support := [("chrome", "114"), ("edge", "114"), ("firefox", "121"), ("safari", "17.5")]
     spec := some "https://drafts.csswg.org/css-text-4/#valdef-text-wrap-balance" },
   { id := "text-wrap-pretty"
     name := "text-wrap: pretty"
     description := "Paragraph-level line breaking that avoids orphans"
     group := "css"
     tier := .limited
     keys :=
        ["css.properties.text-wrap.pretty"]
     support := [("chrome", "117"), ("edge", "117"), ("safari", "26")]
     spec := some "https://drafts.csswg.org/css-text-4/#valdef-text-wrap-pretty" },
   { id := "field-sizing"
     name := "field-sizing"
     description := "Form controls that size to their content"
     group := "css"
     tier := .limited
     keys :=
        ["css.properties.field-sizing"]
     support := [("chrome", "123"), ("edge", "123")]
     spec := some "https://drafts.csswg.org/css-ui-4/#field-sizing" },
   { id := "anchor-positioning"
     name := "CSS Anchor Positioning"
     description := "Position elements relative to an anchor element"
     group := "css"
     tier := .limited
     keys :=
        ["css.properties.anchor-name",
         "css.properties.position-anchor",
         "css.properties.position-area",
         "css.at-rules.position-try"]
     support := [("chrome", "125"), ("edge", "125"), ("safari", "26")]
     spec := some "https://drafts.csswg.org/css-anchor-position-1/" },
   { id := "initial-letter"
     name := "initial-letter"
     description := "Drop caps and raised initial letters"
     group := "css"
     tier := .limited
     keys :=
        ["css.properties.initial-letter"]
     support := [("chrome", "110"), ("edge", "110"), ("safari", "9")]
     spec := some "https://drafts.csswg.org/css-inline-3/#sizing-drop-initials" },
   { id := "hanging-punctuation"
     name := "hanging-punctuation"
     description := "Punctuation that hangs outside the line box"
     group := "css"
     tier := .limited
     keys :=
        ["css.properties.hanging-punctuation"]
     support := [("safari", "10")]
     spec := some "https://drafts.csswg.org/css-text-4/#hanging-punctuation-property" },
   { id := "cascade-layers"
     name := "Cascade Layers"
     description := "CSS @layer rule for explicit cascade ordering"
     group := "css"
     tier := .widely
     keys :=
        ["css.at-rules.layer"]
     lowDate := some "2022-03-14"
     highDate := some "2024-09-14"
     support := [("chrome", "99"), ("edge", "99"), ("firefox", "97"), ("safari", "15.4")]
     spec := some "https://drafts.csswg.org/css-cascade-5/#layering" },
   { id := "scope"
     name := "@scope"
     description := "Scoped styles with upper and lower boundaries"
     group := "css"
     tier := .newly
     keys :=
        ["css.at-rules.scope"]
     lowDate := some "2025-12-09"
     support := [("chrome", "118"), ("edge", "118"), ("firefox", "146"), ("safari", "17.4")]
     spec := some "https://drafts.csswg.org/css-cascade-6/#scoped-styles" },
   { id := "starting-style"
     name := "@starting-style"
     description := "Starting styles for entry transitions"
     group := "css"
     tier := .newly
     keys :=
        ["css.at-rules.starting-style"]
     lowDate := some "2024-08-06"
     support := [("chrome", "117"), ("edge", "117"), ("firefox", "129"), ("safari", "17.5")]
     spec := some "https://drafts.csswg.org/css-transitions-2/#defining-before-change-style" },
   { id := "aspect-ratio"
     name := "aspect-ratio"
     description := "Preferred aspect ratio for boxes"
     group := "css"
     tier := .widely
     keys :=
        ["css.properties.aspect-ratio"]
     lowDate := some "2021-09-20"
     highDate := some "2024-03-20"
     support := [("chrome", "88"), ("edge", "88"), ("firefox", "89"), ("safari", "15")]
     spec := some "https://drafts.csswg.org/css-sizing-4/#aspect-ratio" },
   { id := "flexbox-gap"
     name := "Flexbox and Grid gap"
     description := "Gaps between flex and grid items"
     group := "css"
     tier := .widely
     keys :=
        ["css.properties.gap",
         "css.properties.row-gap",
         "css.properties.column-gap"]
     lowDate := some "2021-04-26"
     highDate := some "2023-10-26"
     support := [("chrome", "84"), ("edge", "84"), ("firefox", "63"), ("safari", "14.1")]
     spec := some "https://drafts.csswg.org/css-align-3/#gaps" },
   { id := "backdrop-filter"
     name := "backdrop-filter"
     description := "Graphical effects applied to the area behind an element"
     group := "css"
     tier := .newly
     keys :=
        ["css.properties.backdrop-filter"]
     lowDate := some "2024-09-16"
     support := [("chrome", "76"), ("edge", "79"), ("firefox", "103"), ("safari", "18")]
     spec := some "https://drafts.fxtf.org/filter-effects-2/#BackdropFilterProperty" },
   { id := "color-mix"
     name := "color-mix()"
     description := "Mix two colors in a given color space"
     group := "css"
     tier := .newly
     keys :=
        ["css.properties.color.color-mix",
         "css.properties.background-color.color-mix",
         "css.properties.border-color.color-mix"]
     lowDate := some "2023-05-09"
     support := [("chrome", "111"), ("edge", "111"), ("firefox", "113"), ("safari", "16.2")]
     spec := some "https://drafts.csswg.org/css-color-5/#color-mix" },
   { id := "light-dark"
     name := "light-dark()"
     description := "Pick a color based on the used color scheme"
     group := "css"
     tier := .newly
     keys :=
        ["css.properties.color.light-dark",
         "css.properties.background-color.light-dark"]
     lowDate := some "2024-05-13"
     support := [("chrome", "123"), ("edge", "123"), ("firefox", "120"), ("safari", "17.5")]
     spec := some "https://drafts.csswg.org/css-color-5/#light-dark" },
   { id := "content-visibility"
     name := "content-visibility"
     description := "Skip rendering work for off-screen content"
     group := "css"
     tier := .newly
     keys :=
        ["css.properties.content-visibility"]
     lowDate := some "2025-09-15"
     support := [("chrome", "85"), ("edge", "85"), ("firefox", "125"), ("safari", "18")]
     spec := some "https://drafts.csswg.org/css-contain-2/#content-visibility" },
   { id := "view-transitions"
     name := "View Transitions"
     description := "Animated transitions between DOM states"
     group := "css"
     tier := .newly
     keys :=
        ["css.properties.view-transition-name",
         "document.startViewTransition"]
     lowDate := some "2025-10-14"
     support := [("chrome", "111"), ("edge", "111"), ("firefox", "144"), ("safari", "18")]
     spec := some "https://drafts.csswg.org/css-view-transitions-1/" }]

def scriptFeatures : List Feature :=
  [{ id := "fetch"
     name := "Fetch"
     description := "The fetch() API for network requests"
     group := "javascript"
     tier := .widely
     keys :=
        ["fetch",
         "window.fetch"]
     lowDate := some "2017-03-27"
     highDate := some "2019-09-27"
     support := [("chrome", "42"), ("edge", "14"), ("firefox", "39"), ("safari", "10.1")]
     spec := some "https://fetch.spec.whatwg.org/" },
   { id := "structured-clone"
     name := "structuredClone()"
     description := "Deep copy values with the structured clone algorithm"
     group := "javascript"
     tier := .widely
     keys :=
        ["structuredClone",
         "window.structuredClone"]
     lowDate := some "2022-03-14"
     highDate := some "2024-09-14"
     support := [("chrome", "98"), ("edge", "98"), ("firefox", "94"), ("safari", "15.4")]
     spec := some
       "https://html.spec.whatwg.org/multipage/structured-data.html#dom-structuredclone" },
   { id := "crypto-random-uuid"
     name := "crypto.randomUUID()"
     description := "Generate a random v4 UUID"
     group := "javascript"
     tier := .widely
     keys :=
        ["crypto.randomUUID",
         "window.crypto.randomUUID"]
     lowDate := some "2022-03-14"
     highDate := some "2024-09-14"
     support := [("chrome", "92"), ("edge", "92"), ("firefox", "95"), ("safari", "15.4")]
     spec := some "https://w3c.github.io/webcrypto/#Crypto-method-randomUUID" },
   { id := "async-clipboard"
     name := "Async Clipboard"
     description := "Read and write the system clipboard asynchronously"
     group := "javascript"
     tier := .newly
     keys :=
        ["navigator.clipboard.writeText",
         "navigator.clipboard.readText",
         "navigator.clipboard.write",
         "navigator.clipboard.read"]
     lowDate := some "2024-06-11"
     support := [("chrome", "66"), ("edge", "79"), ("firefox", "125"), ("safari", "13.1")]
     spec := some "https://w3c.github.io/clipboard-apis/" },
   { id := "array-tosorted"
     name := "Array.prototype.toSorted"
     description := "Non-mutating array sort"
     group := "javascript"
     tier := .newly
     keys :=
        ["toSorted",
         "Array.prototype.toSorted"]
     lowDate := some "2023-07-04"
     support := [("chrome", "110"), ("edge", "110"), ("firefox", "115"), ("safari", "16")]
     spec := some "https://tc39.es/ecma262/#sec-array.prototype.tosorted" },
   { id := "promise-withresolvers"
     name := "Promise.withResolvers()"
     description := "Create a promise together with its resolve and reject functions"
     group := "javascript"
     tier := .newly
     keys :=
        ["Promise.withResolvers"]
     lowDate := some "2024-03-05"
     support := [("chrome", "119"), ("edge", "119"), ("firefox", "121"), ("safari", "17.4")]
     spec := some "https://tc39.es/ecma262/#sec-promise.withResolvers" },
   { id := "array-group"
     name := "Object.groupBy() and Map.groupBy()"
     description := "Group iterable items by a key"
     group := "javascript"
     tier := .newly
     keys :=
        ["Object.groupBy",
         "Map.groupBy"]
     lowDate := some "2024-03-05"
     support := [("chrome", "117"), ("edge", "117"), ("firefox", "119"), ("safari", "17.4")]
     spec := some "https://tc39.es/ecma262/#sec-object.groupby" },
   { id := "array-fromasync"
     name := "Array.fromAsync()"
     description := "Build an array from an async iterable"
     group := "javascript"
     tier := .newly
     keys :=
        ["Array.fromAsync"]
     lowDate := some "2024-01-25"
     support := [("chrome", "121"), ("edge", "121"), ("firefox", "115"), ("safari", "16.4")]
     spec := some "https://tc39.es/proposal-array-from-async/" },
   { id := "url-canparse"
     name := "URL.canParse()"
     description := "Check whether a URL is parsable without throwing"
     group := "javascript"
     tier := .newly
     keys :=
        ["URL.canParse"]
     lowDate := some "2023-12-07"
     support := [("chrome", "120"), ("edge", "120"), ("firefox", "115"), ("safari", "17")]
     spec := some "https://url.spec.whatwg.org/#dom-url-canparse" },
   { id := "abortsignal-any"
     name := "AbortSignal.any()"
     description := "Combine several abort signals into one"
     group := "javascript"
     tier := .newly
     keys :=
        ["AbortSignal.any"]
     lowDate := some "2024-03-19"
     support := [("chrome", "116"), ("edge", "116"), ("firefox", "124"), ("safari", "17.4")]
     spec := some "https://dom.spec.whatwg.org/#dom-abortsignal-any" },
   { id := "request-idle-callback"
     name := "requestIdleCallback()"
     description := "Schedule work during browser idle periods"
     group := "javascript"
     tier := .limited
     keys :=
        ["requestIdleCallback",
         "window.requestIdleCallback"]
     support := [("chrome", "47"), ("edge", "79"), ("firefox", "55")]
     spec := some "https://w3c.github.io/requestidlecallback/" },
   { id := "web-share"
     name := "Web Share"
     description := "Share content through the operating system share sheet"
     group := "javascript"
     tier := .limited
     keys :=
        ["navigator.share",
         "navigator.canShare"]
     support := [("chrome_android", "61"), ("edge", "93"), ("safari", "12.1")]
     spec := some "https://w3c.github.io/web-share/" },
   { id := "web-bluetooth"
     name := "Web Bluetooth"
     description := "Communicate with Bluetooth Low Energy devices"
     group := "javascript"
     tier := .limited
     keys :=
        ["navigator.bluetooth.requestDevice"]
     support := [("chrome", "56"), ("edge", "79")]
     spec := some "https://webbluetoothcg.github.io/web-bluetooth/" },
   { id := "webusb"
     name := "WebUSB"
     description := "Access USB devices from web pages"
     group := "javascript"
     tier := .limited
     keys :=
        ["navigator.usb.requestDevice",
         "navigator.usb.getDevices"]
     support := [("chrome", "61"), ("edge", "79")]
     spec := some "https://wicg.github.io/webusb/" },
   { id := "web-serial"
     name := "Web Serial"
     description := "Read from and write to serial devices"
     group := "javascript"
     tier := .limited
     keys :=
        ["navigator.serial.requestPort"]
     support := [("chrome", "89"), ("edge", "89")]
     spec := some "https://wicg.github.io/serial/" },
   { id := "file-system-access"
     name := "File System Access pickers"
     description := "Native open and save file pickers"
     group := "javascript"
     tier := .limited
     keys :=
        ["showOpenFilePicker",
         "showSaveFilePicker",
         "showDirectoryPicker",
         "window.showOpenFilePicker",
         "window.showSaveFilePicker",
         "window.showDirectoryPicker"]
     support := [("chrome", "86"), ("edge", "86")]
     spec := some "https://wicg.github.io/file-system-access/" },
   { id := "webgpu"
     name := "WebGPU"
     description := "Modern GPU access for rendering and compute"
     group := "javascript"
     tier := .limited
     keys :=
        ["navigator.gpu.requestAdapter"]
     support := [("chrome", "113"), ("edge", "113"), ("safari", "26")]
     spec := some "https://gpuweb.github.io/gpuweb/" },
   { id := "scheduler"
     name := "Prioritized Task Scheduling"
     description := "scheduler.postTask() and scheduler.yield()"
     group := "javascript"
     tier := .limited
     keys :=
        ["scheduler.postTask",
         "scheduler.yield"]
     support := [("chrome", "94"), ("edge", "94"), ("firefox", "142")]
     spec := some "https://wicg.github.io/scheduling-apis/" }]

def markupFeatures : List Feature :=
  [{ id := "dialog"
     name := "<dialog>"
     description := "HTML dialog element"
     group := "html"
     tier := .widely
     keys :=
        ["dialog"]
     lowDate := some "2022-03-14"
     highDate := some "2024-09-14"
     support := [("chrome", "37"), ("edge", "79"), ("firefox", "98"), ("safari", "15.4")]
     spec := some
       "https://html.spec.whatwg.org/multipage/interactive-elements.html#the-dialog-element" },
   { id := "popover"
     name := "Popover"
     description := "The popover attribute and popover invokers"
     group := "html"
     tier := .newly
     keys :=
        ["div.popover",
         "button.popovertarget",
         "input.popovertarget"]
     lowDate := some "2024-04-16"
     support := [("chrome", "114"), ("edge", "114"), ("firefox", "125"), ("safari", "17")]
     spec := some "https://html.spec.whatwg.org/multipage/popover.html" },
   { id := "search"
     name := "<search>"
     description := "HTML search landmark element"
     group := "html"
     tier := .newly
     keys :=
        ["search"]
     lowDate := some "2023-10-24"
     support := [("chrome", "118"), ("edge", "118"), ("firefox", "118"), ("safari", "17")]
     spec := some
       "https://html.spec.whatwg.org/multipage/grouping-content.html#the-search-element" },
   { id := "details-name"
     name := "Exclusive accordions"
     description := "Grouping <details> elements with the name attribute"
     group := "html"
     tier := .newly
     keys :=
        ["details.name"]
     lowDate := some "2024-09-16"
     support := [("chrome", "120"), ("edge", "120"), ("firefox", "130"), ("safari", "17.2")]
     spec := some
       "https://html.spec.whatwg.org/multipage/interactive-elements.html#attr-details-name" },
   { id := "declarative-shadow-dom"
     name := "Declarative shadow DOM"
     description := "Shadow roots declared with <template shadowrootmode>"
     group := "html"
     tier := .newly
     keys :=
        ["template.shadowrootmode"]
     lowDate := some "2024-08-06"
     support := [("chrome", "111"), ("edge", "111"), ("firefox", "123"), ("safari", "16.4")]
     spec := some
       "https://html.spec.whatwg.org/multipage/scripting.html#attr-template-shadowrootmode" },
   { id := "inert"
     name := "inert"
     description := "Make a subtree non-interactive"
     group := "html"
     tier := .newly
     keys :=
        ["div.inert",
         "section.inert",
         "main.inert",
         "aside.inert"]
     lowDate := some "2023-04-11"
     support := [("chrome", "102"), ("edge", "102"), ("firefox", "112"), ("safari", "15.5")]
     spec := some "https://html.spec.whatwg.org/multipage/interaction.html#the-inert-attribute" },
   { id := "loading-lazy"
     name := "Lazy loading"
     description := "Deferred loading of images and iframes"
     group := "html"
     tier := .newly
     keys :=
        ["img.loading",
         "iframe.loading"]
     lowDate := some "2023-12-11"
     support := [("chrome", "77"), ("edge", "79"), ("firefox", "121"), ("safari", "16.4")]
     spec := some
       "https://html.spec.whatwg.org/multipage/urls-and-fetching.html#lazy-loading-attributes" },
   { id := "fetchpriority"
     name := "Fetch priority"
     description := "The fetchpriority attribute for resource hints"
     group := "html"
     tier := .newly
     keys :=
        ["img.fetchpriority",
         "link.fetchpriority",
         "script.fetchpriority"]
     lowDate := some "2024-10-29"
     support := [("chrome", "102"), ("edge", "102"), ("firefox", "132"), ("safari", "17.2")]
     spec := some
       "https://html.spec.whatwg.org/multipage/urls-and-fetching.html#fetch-priority-attributes" },
   { id := "iframe-credentialless"
     name := "Credentialless iframes"
     description := "Load iframes in an ephemeral, credential-free context"
     group := "html"
     tier := .limited
     keys :=
        ["iframe.credentialless"]
     support := [("chrome", "110"), ("edge", "110")]
     spec := some "https://wicg.github.io/anonymous-iframe/" },
   { id := "fencedframe"
     name := "<fencedframe>"
     description := "Privacy-preserving embedded frames"
     group := "html"
     tier := .limited
     keys :=
        ["fencedframe"]
     support := [("chrome", "115"), ("edge", "115")]
     spec := some "https://wicg.github.io/fenced-frame/" },
   { id := "customizable-select"
     name := "Customizable <select>"
     description := "The <selectedcontent> element for styled select menus"
     group := "html"
     tier := .limited
     keys :=
        ["selectedcontent"]
     support := [("chrome", "135"), ("edge", "135")]
     spec := some "https://github.com/whatwg/html/pull/10548" }]

def bundled : Table :=
  { version := "2026.10.0"
    features := cssFeatures ++ scriptFeatures ++ markupFeatures }

end WebBaseline.Table
