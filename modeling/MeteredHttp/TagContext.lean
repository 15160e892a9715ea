import MeteredHttp.Dictionary
import MeteredHttp.SystemTag

/-!
# Tags and metadata

What is attached to samples: indexed tags, and metadata that is not indexed.
-/

namespace MeteredHttp

/-- Names and values attached to a sample. -/
abbrev Tags := Dictionary Bytes

/-- The tags and the metadata that samples are given. -/
structure TagContext where
  tags : Tags := .empty
  metadata : Tags := .empty

namespace TagContext

/-- Sets a tag. -/
def withTag (ctx : TagContext) (name value : Bytes) : TagContext :=
  { ctx with tags := ctx.tags.insert name value }

/-- Sets an entry of the metadata. -/
def withMetadata (ctx : TagContext) (name value : Bytes) : TagContext :=
  { ctx with metadata := ctx.metadata.insert name value }

/-- Sets a system tag where it belongs. -/
def withSystem (ctx : TagContext) (tag : SystemTag) (value : Bytes) : TagContext :=
  if tag.isMetadata then ctx.withMetadata tag.key value else ctx.withTag tag.key value

/-- Sets a system tag if it is wanted. -/
def withEnabled (ctx : TagContext) (enabled : SystemTagSet) (tag : SystemTag) (value : Bytes) :
    TagContext :=
  if enabled.has tag then ctx.withSystem tag value else ctx

/-- The tags of `upper` written over those of the context. -/
def overlay (ctx : TagContext) (upper : Tags) : TagContext :=
  { ctx with tags := ctx.tags.overlay upper }

end TagContext

end MeteredHttp
