import Scaffold.Text.Basic

/-!
# Rules of English inflection

The words and endings that decide the plural and the singular of a word. A rule pairs a written
pattern with the text that replaces what it matches, where `$1` stands for the first group of the
pattern that took part. Rules are tried from the last to the first, so a later rule is the more
special one.
-/
namespace Scaffold.Inflection

/-- Pairs of literals as pairs of texts. -/
def written (pairs : List (String × String)) : List (Text × Text) :=
  pairs.map fun (first, second) => (first.toList, second.toList)

/-- Irregular words: the singular and its plural. -/
def irregularWords : List (Text × Text) :=
  written
    [("I", "we"), ("me", "us"), ("he", "they"), ("she", "they"), ("them", "them"),
      ("myself", "ourselves"), ("yourself", "yourselves"), ("itself", "themselves"),
      ("herself", "themselves"), ("himself", "themselves"), ("themself", "themselves"),
      ("is", "are"), ("was", "were"), ("has", "have"), ("this", "these"), ("that", "those"),
      ("my", "our"), ("its", "their"), ("his", "their"), ("her", "their"), ("echo", "echoes"),
      ("dingo", "dingoes"), ("volcano", "volcanoes"), ("tornado", "tornadoes"),
      ("torpedo", "torpedoes"), ("genus", "genera"), ("viscus", "viscera"),
      ("stigma", "stigmata"), ("stoma", "stomata"), ("dogma", "dogmata"), ("lemma", "lemmata"),
      ("schema", "schemata"), ("anathema", "anathemata"), ("ox", "oxen"), ("axe", "axes"),
      ("die", "dice"), ("yes", "yeses"), ("foot", "feet"), ("eave", "eaves"), ("goose", "geese"),
      ("tooth", "teeth"), ("quiz", "quizzes"), ("human", "humans"), ("proof", "proofs"),
      ("carve", "carves"), ("valve", "valves"), ("looey", "looies"), ("thief", "thieves"),
      ("groove", "grooves"), ("pickaxe", "pickaxes"), ("passerby", "passersby"),
      ("canvas", "canvases")]

/-- Rules that make a plural. -/
def pluralRules : List (Text × Text) :=
  written
    [("(?i)s?$", "s"), ("(?i)[^\\u0000-\\u007F]$", "$0"), ("(?i)([^aeiou]ese)$", "$1"),
      ("(?i)(ax|test)is$", "$1es"), ("(?i)(alias|[^aou]us|t[lm]as|gas|ris)$", "$1es"),
      ("(?i)(e[mn]u)s?$", "$1s"), ("(?i)([^l]ias|[aeiou]las|[ejzr]as|[iu]am)$", "$1"),
      ("(?i)(alumn|syllab|vir|radi|nucle|fung|cact|stimul|termin|bacill|foc|uter|loc|strat)(?:us|i)$", "$1i"),
      ("(?i)(alumn|alg|vertebr)(?:a|ae)$", "$1ae"), ("(?i)(seraph|cherub)(?:im)?$", "$1im"),
      ("(?i)(her|at|gr)o$", "$1oes"),
      ("(?i)(agend|addend|millenni|dat|extrem|bacteri|desiderat|strat|candelabr|errat|ov|symposi|curricul|automat|quor)(?:a|um)$", "$1a"),
      ("(?i)(apheli|hyperbat|periheli|asyndet|noumen|phenomen|criteri|organ|prolegomen|hedr|automat)(?:a|on)$", "$1a"),
      ("(?i)sis$", "ses"), ("(?i)(?:(kni|wi|li)fe|(ar|l|ea|eo|oa|hoo)f)$", "$1$2ves"),
      ("(?i)([^aeiouy]|qu)y$", "$1ies"), ("(?i)([^ch][ieo][ln])ey$", "$1ies"),
      ("(?i)(x|ch|ss|sh|zz)$", "$1es"),
      ("(?i)(matr|cod|mur|sil|vert|ind|append)(?:ix|ex)$", "$1ices"),
      ("(?i)\\b((?:tit)?m|l)(?:ice|ouse)$", "$1ice"), ("(?i)(pe)(?:rson|ople)$", "$1ople"),
      ("(?i)(child)(?:ren)?$", "$1ren"), ("(?i)eaux$", "$0"), ("(?i)m[ae]n$", "men"),
      ("(?i)^thou$", "you")]

/-- Rules that make a singular. -/
def singularRules : List (Text × Text) :=
  written
    [("(?i)s$", ""), ("(?i)(ss)$", "$1"),
      ("(?i)(wi|kni|(?:after|half|high|low|mid|non|night|[^\\w]|^)li)ves$", "$1fe"),
      ("(?i)(ar|(?:wo|[ae])l|[eo][ao])ves$", "$1f"), ("(?i)ies$", "y"),
      ("(?i)(dg|ss|ois|lk|ok|wn|mb|th|ch|ec|oal|is|ck|ix|sser|ts|wb)ies$", "$1ie"),
      ("(?i)\\b(l|(?:neck|cross|hog|aun)?t|coll|faer|food|gen|goon|group|hipp|junk|vegg|(?:pork)?p|charl|calor|cut)ies$", "$1ie"),
      ("(?i)\\b(mon|smil)ies$", "$1ey"), ("(?i)\\b((?:tit)?m|l)ice$", "$1ouse"),
      ("(?i)(seraph|cherub)im$", "$1"),
      ("(?i)(x|ch|ss|sh|zz|tto|go|cho|alias|[^aou]us|t[lm]as|gas|(?:her|at|gr)o|[aeiou]ris)(?:es)?$", "$1"),
      ("(?i)(analy|diagno|parenthe|progno|synop|the|empha|cri|ne)(?:sis|ses)$", "$1sis"),
      ("(?i)(movie|twelve|abuse|e[mn]u)s$", "$1"), ("(?i)(test)(?:is|es)$", "$1is"),
      ("(?i)(alumn|syllab|vir|radi|nucle|fung|cact|stimul|termin|bacill|foc|uter|loc|strat)(?:us|i)$", "$1us"),
      ("(?i)(agend|addend|millenni|dat|extrem|bacteri|desiderat|strat|candelabr|errat|ov|symposi|curricul|quor)a$", "$1um"),
      ("(?i)(apheli|hyperbat|periheli|asyndet|noumen|phenomen|criteri|organ|prolegomen|hedr|automat)a$", "$1on"),
      ("(?i)(alumn|alg|vertebr)ae$", "$1a"), ("(?i)(cod|mur|sil|vert|ind)ices$", "$1ex"),
      ("(?i)(matr|append)ices$", "$1ix"), ("(?i)(pe)(rson|ople)$", "$1rson"),
      ("(?i)(child)ren$", "$1"), ("(?i)(eau)x?$", "$1"), ("(?i)men$", "man")]

/-- Words that have no other number. -/
def uncountableWords : List Text :=
  List.map String.toList
    ["adulthood", "advice", "agenda", "aid", "aircraft", "alcohol", "ammo", "analytics", "anime",
      "athletics", "audio", "bison", "blood", "bream", "buffalo", "butter", "carp", "cash",
      "chassis", "chess", "clothing", "cod", "commerce", "cooperation", "corps", "debris",
      "diabetes", "digestion", "elk", "energy", "equipment", "excretion", "expertise",
      "firmware", "flounder", "fun", "gallows", "garbage", "graffiti", "hardware",
      "headquarters", "health", "herpes", "highjinks", "homework", "housework", "information",
      "jeans", "justice", "kudos", "labour", "literature", "machinery", "mackerel", "mail",
      "media", "mews", "moose", "music", "mud", "manga", "news", "only", "personnel", "pike",
      "plankton", "pliers", "police", "pollution", "premises", "rain", "research", "rice",
      "salmon", "scissors", "series", "sewage", "shambles", "shrimp", "software", "staff",
      "swine", "tennis", "traffic", "transportation", "trout", "tuna", "wealth", "welfare",
      "whiting", "wildebeest", "wildlife", "you"]

/-- Endings of words that have no other number; they come after all other rules. -/
def uncountableEndings : List Text :=
    ["(?i)pok[eé]mon$", "(?i)[^aeiou]ese$", "(?i)deer$", "(?i)fish$", "(?i)measles$",
      "(?i)o[iu]s$", "(?i)pox$", "(?i)sheep$"]

end Scaffold.Inflection
