import Clientwright.Crate.Client
import Clientwright.Crate.Options

/-!
# Package files

The files that make a crate out of the generated modules: the root of the library, the package
manifest and the page that introduces it.
-/

namespace Clientwright.Crate

/-- What the package files say. -/
structure Package where
  name : String
  version : String
  fullName : String
  apiVersion : String
  protocol : String
  client : String
  /-- the operations with their methods -/
  methods : List (String × String)
  paginators : List String
  waiters : List String
  deriving DecidableEq, Repr

/-- The package of a blueprint, with the names of what is paged and of what is waited for. -/
def Package.of (b : Blueprint) (o : Options) (paginators waiters : List String) : Package where
  name := o.crateNameOf b.service
  version := o.crateVersion
  fullName := b.service.metadata.fullName
  apiVersion := b.service.metadata.apiVersion
  protocol := b.protocol.name
  client := clientType b.service
  methods := b.operations.map fun op => (op.name, methodName op)
  paginators
  waiters

namespace Package

/-- The root of the library. -/
def library (p : Package) : Code :=
  Code.all [
    .texts [
      "//! Client for " ++ p.fullName,
      "//!",
      "//! API version `" ++ p.apiVersion ++ "`. Generated from the service model; do not edit.",
      "#![allow(deprecated)]"],
    .blank,
    .texts ["pub mod client;", "pub mod input;", "pub mod output;"],
    .when (!p.paginators.isEmpty) (.text "pub mod pagination;"),
    .texts ["pub mod runtime;", "pub mod types;"],
    .when (!p.waiters.isEmpty) (.text "mod waiters;"),
    .blank,
    .text ("pub use client::" ++ p.client ++ ";"),
    .text "pub use runtime::\x7bError, Request, Response, Transport\x7d;"]

/-- The package manifest. -/
def manifest (p : Package) : List String := [
  "[package]",
  "name = \"" ++ p.name ++ "\"",
  "version = \"" ++ p.version ++ "\"",
  "edition = \"2021\"",
  "description = \"Client for " ++ p.fullName ++ "\"",
  "publish = false",
  "",
  "[dependencies]",
  "base64 = \"0.22\"",
  "chrono = \"0.4\"",
  "roxmltree = \"0.20\"",
  "serde_json = \"1.0\"",
  "thiserror = \"2.0\"",
  "uuid = \x7b version = \"1.0\", features = [\"v4\"] \x7d"]

/-- A list of names under a heading, if there are any. -/
def nameList (heading : String) (names : List String) : List String :=
  if names.isEmpty then []
  else ["", "## " ++ heading, ""] ++ names.map fun name => "- `" ++ name ++ "`"

/-- The page that introduces the crate. -/
def readme (p : Package) : List String :=
  [ "# " ++ p.name,
    "",
    "Client for " ++ p.fullName ++ " (API version `" ++ p.apiVersion ++ "`, `" ++ p.protocol ++
      "` protocol).",
    "",
    "This crate was generated from the service model. It builds requests and parses",
    "responses; sending them is left to a `Transport` you provide, which is where",
    "endpoint resolution, request signing and retries belong.",
    "",
    "## Usage",
    "",
    "```rust,ignore",
    "use " ++ Text.replaceChar '-' '_' p.name ++ "::\x7b " ++ p.client ++
      ", Request, Response, Transport, Error \x7d;",
    "",
    "struct MyTransport;",
    "",
    "impl Transport for MyTransport \x7b",
    "    fn send(&self, request: Request) -> Result<Response, Error> \x7b",
    "        // sign and send the request",
    "        todo!()",
    "    \x7d",
    "\x7d",
    "",
    "let client = " ++ p.client ++ "::new(MyTransport);",
    "```",
    "",
    "## Operations",
    "",
    "| Operation | Method |",
    "|-----------|--------|"] ++
  p.methods.map (fun (operation, method) => "| `" ++ operation ++ "` | `" ++ method ++ "` |") ++
  nameList "Paginators" p.paginators ++
  nameList "Waiters" p.waiters ++
  [""]

end Package

end Clientwright.Crate
