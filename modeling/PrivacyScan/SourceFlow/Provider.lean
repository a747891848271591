import PrivacyScan.SourceFlow.State

/-!
Providers of language models, by the functions of theirs that take data.
-/

namespace PrivacyScan.SourceFlow

open Source (Node)

/-- Providers with parts of the names of their functions; the first that fits is taken. -/
def providers : List (String × List String) := [
  ("openai", ["Completion.create", "ChatCompletion.create", "Embedding.create",
    "chat.completions.create", "embeddings.create"]),
  ("anthropic", ["completions.create", "messages.create", "complete", "stream"]),
  ("cohere", ["generate", "embed", "chat", "rerank"]),
  ("langchain", ["predict", "run", "call", "invoke", "stream", "ainvoke", "astream"]),
  ("huggingface", ["pipeline", "inference", "generate", "text_generation"]),
  ("google", ["generate_content", "send_message", "start_chat"]),
  ("vertexai", ["predict", "generate_content", "send_message"]),
  ("mistral", ["chat", "complete", "embeddings"]),
  ("groq", ["chat.completions.create", "complete"]),
  ("ollama", ["generate", "chat", "embeddings"]),
  ("replicate", ["run", "stream"]),
  ("requests", ["post", "get", "put", "request"]),
  ("httpx", ["post", "get", "put", "request"]),
  ("aiohttp", ["post", "get", "put", "request"])]

/-- The provider that receives the arguments of a call: by the name of the function, or by the
address that a request goes to. -/
def providerOf? (function : Node) (inputs : List Node) : Option String := do
  let name ← function.dottedName?
  match providers.find? fun (_, parts) => Text.containsAny name parts with
  | some (provider, _) => some provider
  | none =>
    if Text.contains (Text.lower name) "request" then
      let address ← inputs.head?.bind (·.text?)
      if Text.containsAny address ["api.openai.com", "anthropic"] then some "http_ai" else none
    else none

end PrivacyScan.SourceFlow
