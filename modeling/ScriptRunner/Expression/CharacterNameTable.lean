/-! Data of the Unicode standard: names of characters. Letters, signs and symbols in common use have theirs
here. -/

namespace ScriptRunner.Expression

/-- The start that names have in common, and how they go on, with commas between them. -/
def characterNameRows : List (String × List String) := [
  ("",
     ["ACCOUNT OF,ACK,ACKNOWLEDGE,ACTIVATE ARABIC FORM SHAPING,ACTIVATE SYMMETRIC SWAPPING",
      "ACUTE ACCENT,ADDRESSED TO THE SUBJECT,ADI SHAKTI,AIRPLANE,ALEF SYMBOL,ALEMBIC,ALERT",
      "ALL EQUAL TO,ALMOST EQUAL OR EQUAL TO,ALMOST EQUAL TO",
      "ALTERNATE ONE-WAY LEFT WAY TRAFFIC,AMPERSAND,ANCHOR,ANGLE,ANGRY FACE,ANGSTROM SIGN",
      "ANGUISHED FACE,ANKH,APOSTROPHE,APPROACHES THE LIMIT,AQUARIUS,ARIES,ASCENDING NODE",
      "ASTERISK,ASTERISK OPERATOR,ASTERISM,ASTONISHED FACE,ASTRONOMICAL SYMBOL FOR URANUS",
      "ASYMPTOTICALLY EQUAL TO,ATOM SYMBOL,AUSTRAL SIGN",
      "BACK-TILTED SHADOWED WHITE RIGHTWARDS ARROW,BACKSPACE,BALLOON-SPOKED ASTERISK",
      "BASEBALL,BEAMED EIGHTH NOTES,BEAMED SIXTEENTH NOTES,BECAUSE,BEL,BELL,BET SYMBOL",
      "BIOHAZARD SIGN,BITCOIN SIGN,BOM,BOX DRAWINGS LIGHT HORIZONTAL",
      "BOX DRAWINGS LIGHT VERTICAL,BROKEN BAR,BS,BULLET,BULLET OPERATOR,BULLSEYE",
      "BYTE ORDER MARK,CADA UNA,CADUCEUS,CAN,CANCEL,CANCER,CAPRICORN,CAR SLIDING,CARE OF",
      "CARET,CARET INSERTION POINT,CARRIAGE RETURN,CASTLE,CAT FACE WITH TEARS OF JOY",
      "CAT FACE WITH WRY SMILE,CAUTION SIGN,CEDI SIGN,CEDILLA,CENT SIGN,CENTRE LINE SYMBOL",
      "CERES,CGJ,CHAINS,CHARACTER TABULATION,CHARACTER TIE,CHECK MARK,CHI RHO,CHIRON,CHURCH",
      "CIRCUMFLEX ACCENT,CLOSE UP,CLOUD,COFFIN,COLON,COLON EQUALS,COLON SIGN,COMET,COMMA",
      "COMMERCIAL AT,COMMERCIAL MINUS SIGN,COMPLEMENT,CONFOUNDED FACE,CONFUSED FACE",
      "CONJUNCTION,CONTAINS AS MEMBER,CONTOUR INTEGRAL,CONTROL SEQUENCE INTRODUCER",
      "CORRESPONDS TO,CR,CROSSED SWORDS,CROSSING LANES,CRUZEIRO SIGN,CRYING CAT FACE",
      "CRYING FACE,CSI,CUBE ROOT,CUP ON BLACK SQUARE,CURLY LOOP,CURRENCY SIGN",
      "CURVED STEM PARAGRAPH SIGN ORNAMENT,DAGGER,DALET SYMBOL",
      "DASHED TRIANGLE-HEADED RIGHTWARDS ARROW,DATA LINK ESCAPE,DC1,DEL,DELETE",
      "DELTA EQUAL TO,DESCENDING NODE,DEVICE CONTROL ONE,DIAERESIS,DIFFERENCE BETWEEN",
      "DINGBAT CIRCLED SANS-SERIF NUMBER TEN,DINGBAT NEGATIVE CIRCLED NUMBER TEN",
      "DINGBAT NEGATIVE CIRCLED SANS-SERIF NUMBER TEN,DISABLED CAR",
      "DISAPPOINTED BUT RELIEVED FACE,DISAPPOINTED FACE,DIVIDES,DIVISION SIGN",
      "DIVISION SLASH,DIVORCE SYMBOL,DIZZY FACE,DLE,DOES NOT CONTAIN AS MEMBER",
      "DOES NOT DIVIDE,DOLLAR SIGN,DONG SIGN,DOT MINUS,DOT PLUS,DOTTED CIRCLE,DOTTED CROSS",
      "DOUBLED FEMALE SIGN,DOUBLED MALE SIGN,DRACHMA SIGN,DRAFTING POINT RIGHTWARDS ARROW",
      "DRIVE SLOW SIGN,EARTH,EAST SYRIAC CROSS,EIGHTH NOTE,ELEMENT OF,EMPTY SET,ENQ,ENQUIRY",
      "ENVELOPE,EOL,EOT,EQUAL TO BY DEFINITION,EQUALS COLON,EQUALS SIGN,EQUIANGULAR TO",
      "EQUIVALENT TO,ESC,ESCAPE,ESTIMATED SYMBOL,ESTIMATES,ETX,EULER CONSTANT,EURO SIGN",
      "EURO-CURRENCY SIGN,EXCESS,EXCLAMATION MARK,EXCLAMATION QUESTION MARK",
      "EXPRESSIONLESS FACE,FALLING DIAGONAL IN WHITE CIRCLE IN BLACK SQUARE,FARSI SYMBOL",
      "FEARFUL FACE,FEMALE SIGN,FEMININE ORDINAL INDICATOR,FERRY,FF,FIGURE DASH",
      "FIGURE SPACE,FILE SEPARATOR,FIRE,FIRST QUARTER MOON,FIRST STRONG ISOLATE,FISHEYE",
      "FIVE DOT PUNCTUATION,FLAG IN HOLE,FLEUR-DE-LIS,FLORAL HEART,FLOWER",
      "FLOWER PUNCTUATION MARK,FLUSHED FACE,FOR ALL,FORM FEED,FOUNTAIN,FOUR-PER-EM SPACE",
      "FOURTH ROOT,FRACTION SLASH,FRENCH FRANC SIGN",
      "FRONT-TILTED SHADOWED WHITE RIGHTWARDS ARROW,FROWNING FACE WITH OPEN MOUTH,FS",
      "FUEL PUMP,FULL BLOCK,FULL STOP,FUNCTION APPLICATION,FUNERAL URN,GEAR",
      "GEAR WITH HANDLES,GEAR WITHOUT HUB,GEMINI,GEOMETRIC PROPORTION",
      "GEOMETRICALLY EQUAL TO,GEOMETRICALLY EQUIVALENT TO,GERMAN PENNY SIGN,GIMEL SYMBOL",
      "GRAVE ACCENT,GREATER-THAN OR EQUAL TO,GREATER-THAN SIGN,GRIMACING FACE",
      "GROUP SEPARATOR,GS,GUARANI SIGN,HAIR SPACE,HAMMER AND PICK,HAMMER AND SICKLE",
      "HAPPY PERSON RAISING ONE HAND,HEADSTONE GRAVEYARD SYMBOL,HEAR-NO-EVIL MONKEY",
      "HELMET WITH WHITE CROSS,HIGH VOLTAGE SIGN,HISTORIC SITE,HOMOTHETIC,HOT BEVERAGE",
      "HOT SPRINGS,HRYVNIA SIGN,HT,HUSHED FACE,HYPHEN,HYPHEN BULLET,HYPHEN-MINUS",
      "HYPHENATION POINT,ICE SKATE,IDENTICAL TO,IMAGE OF OR APPROXIMATELY EQUAL TO",
      "INCREMENT,INDIAN RUPEE SIGN,INFINITY,INFORMATION SOURCE,INHIBIT ARABIC FORM SHAPING",
      "INHIBIT SYMMETRIC SWAPPING,INTEGRAL,INTERLOCKED FEMALE AND MALE SIGN,INTERROBANG",
      "INTERSECTION,INVERSE BULLET,INVERSE WHITE CIRCLE,JAPANESE BANK SYMBOL,JUNO,JUPITER",
      "KELVIN SIGN,KIP SIGN,L B BAR SYMBOL,LARGE CIRCLE,LARI SIGN,LAST QUARTER MOON",
      "LEFT-HANDED INTERLACED PENTAGRAM,LEFT-POINTING DOUBLE ANGLE QUOTATION MARK",
      "LEFT-SHADED WHITE RIGHTWARDS ARROW,LEO,LESS-THAN OR EQUAL TO,LESS-THAN SIGN,LF,LIBRA",
      "LIGHTNING,LIRA SIGN,LIVRE TOURNOIS SIGN,LOGICAL AND,LOGICAL OR,LOUDLY CRYING FACE",
      "LOW ASTERISK,LOW LINE,LOZENGE,LRE,LRM,LRO,MACRON,MALTESE CROSS,MANAT SIGN",
      "MAP SYMBOL FOR LIGHTHOUSE,MARRIAGE SYMBOL,MASCULINE ORDINAL INDICATOR,MEASURED ANGLE",
      "MEASURED BY,MERCURY,MICRO SIGN,MIDDLE DOT,MILL SIGN,MINUS SIGN,MINUS TILDE",
      "MINUS-OR-PLUS SIGN,MONOGRAM FOR YANG,MONOGRAM FOR YIN,MOUNTAIN,MULTIPLICATION SIGN",
      "MULTIPLICATION X,NABLA,NAIRA SIGN,NARROW NO-BREAK SPACE,NATIONAL DIGIT SHAPES,NBSP",
      "NEGATIVE SQUARED CROSS MARK,NEITHER APPROXIMATELY NOR ACTUALLY EQUAL TO,NEL,NEPTUNE",
      "NEUTER,NEUTRAL FACE,NEW LINE,NEW SHEQEL SIGN,NEXT LINE,NL,NNBSP,NO ENTRY",
      "NO-BREAK SPACE,NOMINAL DIGIT SHAPES,NON-BREAKING HYPHEN,NORDIC MARK SIGN",
      "NORTH EAST ARROW,NORTH EAST DOUBLE ARROW",
      "NOTCHED LOWER RIGHT-SHADOWED WHITE RIGHTWARDS ARROW",
      "NOTCHED UPPER RIGHT-SHADOWED WHITE RIGHTWARDS ARROW,NUL,NULL,NUMBER SIGN,NUMERO SIGN",
      "OHM SIGN,ONE DOT LEADER,OPEN-OUTLINED RIGHTWARDS ARROW,OPHIUCHUS,OPPOSITION",
      "ORTHODOX CROSS,OUNCE SIGN,OVERLINE,PAD,PADDING CHARACTER,PALLAS,PARAGRAPH SEPARATOR",
      "PARALLEL TO,PARTIAL DIFFERENTIAL,PARTIALLY-RECYCLED PAPER SYMBOL,PARTY POPPER,PDF",
      "PEACE SYMBOL,PENCIL,PENSIVE FACE,PENTAGRAM,PER MILLE SIGN,PER TEN THOUSAND SIGN",
      "PERCENT SIGN,PERMANENT PAPER SIGN,PERSEVERING FACE,PESETA SIGN,PESO SIGN,PICK",
      "PILCROW SIGN,PILE OF POO,PINWHEEL STAR,PISCES,PLANCK CONSTANT",
      "PLANCK CONSTANT OVER TWO PI,PLUS SIGN,PLUS-MINUS SIGN,PLUTO",
      "POP DIRECTIONAL FORMATTING,POP DIRECTIONAL ISOLATE,POUND SIGN,POUTING CAT FACE",
      "POUTING FACE,PRESCRIPTION TAKE,PRIME,PROPORTION,PROPORTIONAL TO,PUNCTUATION SPACE",
      "QUADRUPLE PRIME,QUARTER NOTE,QUESTION EXCLAMATION MARK,QUESTION MARK",
      "QUESTIONED EQUAL TO,QUINCUNX,QUOTATION MARK,RADIOACTIVE SIGN,RAIN,RAISED FIST",
      "RAISED HAND,RATIO,RECORD SEPARATOR,RECYCLED PAPER SYMBOL,REFERENCE MARK",
      "REGISTERED SIGN,RELIEVED FACE,REPLACEMENT CHARACTER,RESPONSE,RESTRICTED LEFT ENTRY-1",
      "RESTRICTED LEFT ENTRY-2,REVERSE SOLIDUS,RIGHT-HANDED INTERLACED PENTAGRAM",
      "RIGHT-POINTING DOUBLE ANGLE QUOTATION MARK,RIGHT-SHADED WHITE RIGHTWARDS ARROW,RLE",
      "RLM,RLO,ROCKET,RS,RUBLE SIGN,RUPEE SIGN,SAGITTARIUS,SAILBOAT,SALTIRE,SATURN,SCALES",
      "SCORPIUS,SCRUPLE,SECTION SIGN,SEE-NO-EVIL MONKEY,SEMICOLON,SEMISEXTILE,SERVICE MARK",
      "SESQUIQUADRATE,SET MINUS,SEXTILE,SHAMROCK,SHIFT IN,SHIFT OUT,SHINTO SHRINE,SHY,SI",
      "SINE WAVE,SIX PETALLED BLACK AND WHITE FLORETTE,SIX POINTED BLACK STAR",
      "SIX-PER-EM SPACE,SIXTEEN POINTED ASTERISK,SKIER,SKULL AND CROSSBONES,SLEEPING FACE",
      "SLEEPY FACE,SLIGHTLY FROWNING FACE,SLIGHTLY SMILING FACE,SMALL CONTAINS AS MEMBER",
      "SMALL ELEMENT OF,SMILING CAT FACE WITH HEART-SHAPED EYES",
      "SMILING CAT FACE WITH OPEN MOUTH,SMIRKING FACE,SNAKE,SNOWFLAKE,SNOWMAN",
      "SNOWMAN WITHOUT SNOW,SO,SOCCER BALL,SOFT HYPHEN,SOH,SOLIDUS,SOUTH WEST ARROW",
      "SOUTH WEST DOUBLE ARROW,SP,SPACE,SPARKLE,SPARKLES,SPEAK-NO-EVIL MONKEY,SPESMILO SIGN",
      "SPHERICAL ANGLE,SQUARE FOUR CORNERS,SQUARE ROOT,SQUARED KEY,SQUARED SALTIRE",
      "SQUAT BLACK RIGHTWARDS ARROW,ST,STAFF OF AESCULAPIUS,STAFF OF HERMES",
      "START OF HEADING,START OF TEXT,STRESS OUTLINED WHITE STAR,STRICTLY EQUIVALENT TO",
      "STRING TERMINATOR,STX,SUB,SUBSTITUTE,SUN,SUN BEHIND CLOUD,SURFACE INTEGRAL",
      "SWUNG DASH,TAB,TAPE DRIVE,TAURUS,TEARDROP-BARBED RIGHTWARDS ARROW",
      "TEARDROP-SPOKED ASTERISK,TELEPHONE LOCATION SIGN,TELEPHONE SIGN,TENGE SIGN,TENT",
      "THERE DOES NOT EXIST,THERE EXISTS,THEREFORE,THIN SPACE",
      "THREE-D BOTTOM-LIGHTED RIGHTWARDS ARROWHEAD,THREE-D TOP-LIGHTED RIGHTWARDS ARROWHEAD",
      "THREE-PER-EM SPACE,THUNDER CLOUD AND RAIN,THUNDERSTORM,TIGHT TRIFOLIATE SNOWFLAKE",
      "TILDE,TILDE OPERATOR,TIRED FACE,TIRONIAN SIGN ET,TRADE MARK SIGN",
      "TRIANGLE-HEADED RIGHTWARDS ARROW,TRIANGULAR BULLET,TRICOLON,TUGRIK SIGN",
      "TURKISH LIRA SIGN,TWELVE POINTED BLACK STAR,UMBRELLA,UMBRELLA ON GROUND",
      "UMBRELLA WITH RAIN DROPS,UNAMUSED FACE,UNDERTIE,UNION,UNIT SEPARATOR",
      "UNIVERSAL RECYCLING SYMBOL,UNMARRIED PARTNERSHIP SYMBOL",
      "UP-POINTING TRIANGLE WITH LEFT HALF BLACK,UP-POINTING TRIANGLE WITH RIGHT HALF BLACK",
      "UPSIDE-DOWN FACE,URANUS,US,VERSICLE,VESTA,VICTORY HAND,VIRGO,VOLUME INTEGRAL,VT",
      "WARNING SIGN,WEARY CAT FACE,WEARY FACE,WEDGE-TAILED RIGHTWARDS ARROW",
      "WEST SYRIAC CROSS,WHEEL OF DHARMA,WHEELCHAIR SYMBOL,WHITE-FEATHERED RIGHTWARDS ARROW",
      "WINKING FACE,WJ,WON SIGN,WORD JOINER,WORRIED FACE,WREATH PRODUCT,WRITING HAND",
      "YEN SIGN,YIN YANG,ZWJ,ZWNBSP,ZWNJ,ZWSP"]),
  ("ANTICLOCKWISE", ["CONTOUR INTEGRAL,OPEN CIRCLE ARROW,TOP SEMICIRCLE ARROW"]),
  ("APPROXIMATELY", ["BUT NOT ACTUALLY EQUAL TO,EQUAL TO,EQUAL TO OR THE IMAGE OF"]),
  ("BALLOT", ["BOX,BOX WITH CHECK,BOX WITH X,X"]),
  ("BLACK",
     ["CENTRE WHITE STAR,CIRCLE,CIRCLE WITH TWO WHITE DOTS,CIRCLE WITH WHITE DOT RIGHT",
      "CLUB SUIT,CROSS ON SHIELD,DIAMOND,DIAMOND MINUS WHITE X,DIAMOND SUIT",
      "DOWN-POINTING SMALL TRIANGLE,DOWN-POINTING TRIANGLE,DRAUGHTS KING,DRAUGHTS MAN,FLAG",
      "FLORETTE,FOUR POINTED STAR,HEART SUIT,LEFT LANE MERGE,LEFT POINTING INDEX",
      "LEFTWARDS BULLET,LOWER LEFT TRIANGLE,LOWER RIGHT TRIANGLE,MEDIUM SMALL SQUARE",
      "MEDIUM SQUARE,MOON LILITH,NIB,PARALLELOGRAM,QUESTION MARK ORNAMENT,RECTANGLE",
      "RIGHT POINTING INDEX,SAFETY SCISSORS,SCISSORS,SHOGI PIECE,SMALL SQUARE,SMILING FACE",
      "SNOWMAN,SPADE SUIT,SQUARE,STAR,SUN WITH RAYS,TELEPHONE,TRUCK",
      "TWO-WAY LEFT WAY TRAFFIC,UNIVERSAL RECYCLING SYMBOL,UP-POINTING SMALL TRIANGLE",
      "UP-POINTING TRIANGLE,UPPER LEFT TRIANGLE,UPPER RIGHT TRIANGLE,VERTICAL RECTANGLE"]),
  ("BLACK CHESS", ["BISHOP,KING,KNIGHT,PAWN,QUEEN,ROOK"]),
  ("BLACK LEFT-POINTING", ["POINTER,SMALL TRIANGLE,TRIANGLE"]),
  ("BLACK RIGHT-POINTING", ["POINTER,SMALL TRIANGLE,TRIANGLE"]),
  ("BLACK RIGHTWARDS", ["ARROW,ARROWHEAD,BULLET"]),
  ("BLACK-FEATHERED", ["NORTH EAST ARROW,RIGHTWARDS ARROW,SOUTH EAST ARROW"]),
  ("BLACK-LETTER CAPITAL", ["C,H,I,R,Z"]),
  ("CIRCLE WITH",
     ["ALL BUT UPPER LEFT QUADRANT BLACK,LEFT HALF BLACK,LOWER HALF BLACK,RIGHT HALF BLACK",
      "UPPER HALF BLACK,UPPER RIGHT QUADRANT BLACK,VERTICAL FILL"]),
  ("CIRCLED",
     ["CROSSING LANES,HEAVY WHITE RIGHTWARDS ARROW,OPEN CENTRE EIGHT POINTED STAR",
      "WHITE STAR"]),
  ("CLOCKWISE", ["CONTOUR INTEGRAL,INTEGRAL,OPEN CIRCLE ARROW,TOP SEMICIRCLE ARROW"]),
  ("COMBINING",
     ["ACUTE ACCENT,BREVE,CARON,CIRCUMFLEX ACCENT,DIAERESIS,DOT ABOVE,DOUBLE ACUTE ACCENT",
      "GRAVE ACCENT,HOOK ABOVE,MACRON,OVERLINE,RING ABOVE,TILDE"]),
  ("CROSS", ["MARK,OF JERUSALEM,OF LORRAINE"]),
  ("CYRILLIC CAPITAL LETTER",
     ["A,BE,CHE,DE,E,EF,EL,EM,EN,ER,ES,GHE,HA,HARD SIGN,I,IE,KA,O,PE,SHA,SHCHA,SHORT I",
      "SOFT SIGN,TE,TSE,U,VE,YA,YERU,YU,ZE,ZHE"]),
  ("CYRILLIC SMALL LETTER",
     ["A,BE,CHE,DE,E,EF,EL,EM,EN,ER,ES,GHE,HA,HARD SIGN,I,IE,KA,O,PE,SHA,SHCHA,SHORT I",
      "SOFT SIGN,TE,TSE,U,VE,YA,YERU,YU,ZE,ZHE"]),
  ("DEGREE", ["CELSIUS,FAHRENHEIT,SIGN"]), ("DIE", ["FACE-1,FACE-2,FACE-3,FACE-4,FACE-5,FACE-6"]),
  ("DIGIT", ["EIGHT,FIVE,FOUR,NINE,ONE,SEVEN,SIX,THREE,TWO,ZERO"]),
  ("DIGRAM FOR", ["GREATER YANG,GREATER YIN,LESSER YANG,LESSER YIN"]),
  ("DINGBAT CIRCLED SANS-SERIF DIGIT", ["EIGHT,FIVE,FOUR,NINE,ONE,SEVEN,SIX,THREE,TWO"]),
  ("DINGBAT NEGATIVE CIRCLED DIGIT", ["EIGHT,FIVE,FOUR,NINE,ONE,SEVEN,SIX,THREE,TWO"]),
  ("DINGBAT NEGATIVE CIRCLED SANS-SERIF DIGIT", ["EIGHT,FIVE,FOUR,NINE,ONE,SEVEN,SIX,THREE,TWO"]),
  ("DOUBLE",
     ["CURLY LOOP,DAGGER,EXCLAMATION MARK,HIGH-REVERSED-9 QUOTATION MARK,INTEGRAL,LOW LINE",
      "LOW-9 QUOTATION MARK,PRIME,QUESTION MARK,VERTICAL LINE"]),
  ("DOUBLE-STRUCK CAPITAL", ["C,H,N,P,Q,R,Z"]),
  ("DOWNWARDS",
     ["ARROW,ARROW FROM BAR,ARROW LEFTWARDS OF UPWARDS ARROW,DASHED ARROW,DOUBLE ARROW",
      "HARPOON WITH BARB LEFTWARDS,HARPOON WITH BARB RIGHTWARDS,PAIRED ARROWS",
      "TWO HEADED ARROW,WHITE ARROW,ZIGZAG ARROW"]),
  ("DOWNWARDS ARROW WITH", ["CORNER LEFTWARDS,DOUBLE STROKE,TIP LEFTWARDS,TIP RIGHTWARDS"]),
  ("EIGHT",
      ["PETALLED OUTLINED BLACK FLORETTE,SPOKED ASTERISK,TEARDROP-SPOKED PROPELLER ASTERISK"]),
  ("EIGHT POINTED", ["BLACK STAR,PINWHEEL STAR,RECTILINEAR BLACK STAR"]),
  ("EM", ["DASH,QUAD,SPACE"]), ("EN", ["DASH,QUAD,SPACE"]),
  ("END OF", ["LINE,PROOF,TEXT,TRANSMISSION"]),
  ("FACE", ["SAVOURING DELICIOUS FOOD,SCREAMING IN FEAR,THROWING A KISS,WITHOUT MOUTH"]),
  ("FACE WITH",
     ["COLD SWEAT,LOOK OF TRIUMPH,MEDICAL MASK,NO GOOD GESTURE,OK GESTURE,OPEN MOUTH",
      "OPEN MOUTH AND COLD SWEAT,ROLLING EYES,TEARS OF JOY"]),
  ("FACE WITH STUCK-OUT", ["TONGUE,TONGUE AND TIGHTLY-CLOSED EYES,TONGUE AND WINKING EYE"]),
  ("FOUR",
     ["BALLOON-SPOKED ASTERISK,CLUB-SPOKED ASTERISK,DOT MARK,DOT PUNCTUATION",
      "TEARDROP-SPOKED ASTERISK"]),
  ("GREEK CAPITAL LETTER",
     ["ALPHA,BETA,CHI,DELTA,EPSILON,ETA,GAMMA,IOTA,IOTA WITH DIALYTIKA,KAPPA,LAMDA,MU,NU",
      "OMEGA,OMICRON,PHI,PI,PSI,RHO,SIGMA,TAU,THETA,UPSILON,UPSILON WITH DIALYTIKA,XI,ZETA"]),
  ("GREEK SMALL LETTER",
     ["ALPHA,ALPHA WITH TONOS,BETA,CHI,DELTA,EPSILON,EPSILON WITH TONOS,ETA,ETA WITH TONOS",
      "FINAL SIGMA,GAMMA,IOTA,IOTA WITH TONOS,KAPPA,LAMDA,MU,NU,OMEGA,OMICRON,PHI,PI,PSI",
      "RHO,SIGMA,TAU,THETA,UPSILON,UPSILON WITH DIALYTIKA AND TONOS,XI,ZETA"]),
  ("GRINNING", ["CAT FACE WITH SMILING EYES,FACE,FACE WITH SMILING EYES"]),
  ("HEAVY",
     ["ASTERISK,BALLOT X,CHECK MARK,CHEVRON SNOWFLAKE,CIRCLE WITH STROKE AND TWO DOTS ABOVE",
      "CONCAVE-POINTED BLACK RIGHTWARDS ARROW,DASHED TRIANGLE-HEADED RIGHTWARDS ARROW",
      "DIVISION SIGN,DOUBLE COMMA QUOTATION MARK ORNAMENT",
      "DOUBLE TURNED COMMA QUOTATION MARK ORNAMENT,EIGHT POINTED RECTILINEAR BLACK STAR",
      "EIGHT TEARDROP-SPOKED PROPELLER ASTERISK,EXCLAMATION MARK ORNAMENT",
      "EXCLAMATION MARK SYMBOL,FOUR BALLOON-SPOKED ASTERISK,GREEK CROSS",
      "HEART EXCLAMATION MARK ORNAMENT,LEFT-POINTING ANGLE BRACKET ORNAMENT",
      "LEFT-POINTING ANGLE QUOTATION MARK ORNAMENT,LOW DOUBLE COMMA QUOTATION MARK ORNAMENT",
      "LOW SINGLE COMMA QUOTATION MARK ORNAMENT,LOWER RIGHT-SHADOWED WHITE RIGHTWARDS ARROW",
      "MINUS SIGN,MULTIPLICATION X,NORTH EAST ARROW,OPEN CENTRE CROSS,OUTLINED BLACK STAR",
      "PLUS SIGN,RIGHT-POINTING ANGLE BRACKET ORNAMENT",
      "RIGHT-POINTING ANGLE QUOTATION MARK ORNAMENT,RIGHTWARDS ARROW",
      "ROUND-TIPPED RIGHTWARDS ARROW,SINGLE COMMA QUOTATION MARK ORNAMENT",
      "SINGLE TURNED COMMA QUOTATION MARK ORNAMENT,SOUTH EAST ARROW,SPARKLE",
      "TEARDROP-SHANKED RIGHTWARDS ARROW,TEARDROP-SPOKED ASTERISK",
      "TEARDROP-SPOKED PINWHEEL ASTERISK,TRIANGLE-HEADED RIGHTWARDS ARROW",
      "UPPER RIGHT-SHADOWED WHITE RIGHTWARDS ARROW,VERTICAL BAR",
      "WEDGE-TAILED RIGHTWARDS ARROW,WHITE DOWN-POINTING TRIANGLE",
      "WIDE-HEADED RIGHTWARDS ARROW"]),
  ("HEAVY BLACK",
      ["CURVED DOWNWARDS AND RIGHTWARDS ARROW,CURVED UPWARDS AND RIGHTWARDS ARROW,HEART"]),
  ("HEAVY BLACK-FEATHERED", ["NORTH EAST ARROW,RIGHTWARDS ARROW,SOUTH EAST ARROW"]),
  ("HEBREW LETTER",
     ["ALEF,AYIN,BET,DALET,GIMEL,HE,HET,KAF,LAMED,MEM,NUN,PE,QOF,RESH,SAMEKH,SHIN,TAV,TET",
      "TSADI,VAV,YOD,ZAYIN"]),
  ("HEBREW LETTER FINAL", ["KAF,MEM,NUN,PE,TSADI"]),
  ("HORIZONTAL", ["BAR,ELLIPSIS,MALE WITH STROKE SIGN,TABULATION"]),
  ("IDEOGRAPHIC", ["COMMA,FULL STOP,SPACE"]),
  ("INVERTED", ["EXCLAMATION MARK,LAZY S,OHM SIGN,PENTAGRAM,QUESTION MARK,UNDERTIE"]),
  ("INVISIBLE", ["PLUS,SEPARATOR,TIMES"]),
  ("KISSING", ["CAT FACE WITH CLOSED EYES,FACE,FACE WITH CLOSED EYES,FACE WITH SMILING EYES"]),
  ("LATIN", ["CAPITAL LIGATURE IJ,CAPITAL LIGATURE OE,CROSS,SMALL LIGATURE IJ,SMALL LIGATURE OE"]),
  ("LATIN CAPITAL LETTER",
     ["A,AE,B,C,D,D WITH CARON,D WITH STROKE,E,ENG,ETH,F,G,H,H WITH CIRCUMFLEX",
      "H WITH STROKE,I,J,J WITH CIRCUMFLEX,K,K WITH CEDILLA,L,M,N,O,P,Q,R,S,T,THORN,U,V,W",
      "W WITH CIRCUMFLEX,X,Y,Z"]),
  ("LATIN CAPITAL LETTER A WITH",
      ["ACUTE,BREVE,CIRCUMFLEX,DIAERESIS,GRAVE,MACRON,OGONEK,RING ABOVE,TILDE"]),
  ("LATIN CAPITAL LETTER C WITH", ["ACUTE,CARON,CEDILLA,CIRCUMFLEX,DOT ABOVE"]),
  ("LATIN CAPITAL LETTER E WITH",
      ["ACUTE,BREVE,CARON,CIRCUMFLEX,DIAERESIS,DOT ABOVE,GRAVE,MACRON,OGONEK"]),
  ("LATIN CAPITAL LETTER G WITH", ["BREVE,CEDILLA,CIRCUMFLEX,DOT ABOVE"]),
  ("LATIN CAPITAL LETTER I WITH",
      ["ACUTE,BREVE,CIRCUMFLEX,DIAERESIS,DOT ABOVE,GRAVE,MACRON,OGONEK,TILDE"]),
  ("LATIN CAPITAL LETTER L WITH", ["ACUTE,CARON,CEDILLA,MIDDLE DOT,STROKE"]),
  ("LATIN CAPITAL LETTER N WITH", ["ACUTE,CARON,CEDILLA,TILDE"]),
  ("LATIN CAPITAL LETTER O WITH",
      ["ACUTE,BREVE,CIRCUMFLEX,DIAERESIS,DOUBLE ACUTE,GRAVE,MACRON,STROKE,TILDE"]),
  ("LATIN CAPITAL LETTER R WITH", ["ACUTE,CARON,CEDILLA"]),
  ("LATIN CAPITAL LETTER S WITH", ["ACUTE,CARON,CEDILLA,CIRCUMFLEX"]),
  ("LATIN CAPITAL LETTER T WITH", ["CARON,CEDILLA,STROKE"]),
  ("LATIN CAPITAL LETTER U WITH",
      ["ACUTE,BREVE,CIRCUMFLEX,DIAERESIS,DOUBLE ACUTE,GRAVE,MACRON,OGONEK,RING ABOVE,TILDE"]),
  ("LATIN CAPITAL LETTER Y WITH", ["ACUTE,CIRCUMFLEX,DIAERESIS"]),
  ("LATIN CAPITAL LETTER Z WITH", ["ACUTE,CARON,DOT ABOVE"]),
  ("LATIN SMALL LETTER",
     ["A,AE,B,C,D,D WITH CARON,D WITH STROKE,DOTLESS I,E,ENG,ETH,F,G,H,H WITH CIRCUMFLEX",
      "H WITH STROKE,I,J,J WITH CIRCUMFLEX,K,K WITH CEDILLA,KRA,L,LONG S,M,N",
      "N PRECEDED BY APOSTROPHE,O,P,Q,R,S,SHARP S,T,THORN,U,V,W,W WITH CIRCUMFLEX,X,Y,Z"]),
  ("LATIN SMALL LETTER A WITH",
      ["ACUTE,BREVE,CIRCUMFLEX,DIAERESIS,GRAVE,MACRON,OGONEK,RING ABOVE,TILDE"]),
  ("LATIN SMALL LETTER C WITH", ["ACUTE,CARON,CEDILLA,CIRCUMFLEX,DOT ABOVE"]),
  ("LATIN SMALL LETTER E WITH",
      ["ACUTE,BREVE,CARON,CIRCUMFLEX,DIAERESIS,DOT ABOVE,GRAVE,MACRON,OGONEK"]),
  ("LATIN SMALL LETTER G WITH", ["BREVE,CEDILLA,CIRCUMFLEX,DOT ABOVE"]),
  ("LATIN SMALL LETTER I WITH", ["ACUTE,BREVE,CIRCUMFLEX,DIAERESIS,GRAVE,MACRON,OGONEK,TILDE"]),
  ("LATIN SMALL LETTER L WITH", ["ACUTE,CARON,CEDILLA,MIDDLE DOT,STROKE"]),
  ("LATIN SMALL LETTER N WITH", ["ACUTE,CARON,CEDILLA,TILDE"]),
  ("LATIN SMALL LETTER O WITH",
      ["ACUTE,BREVE,CIRCUMFLEX,DIAERESIS,DOUBLE ACUTE,GRAVE,MACRON,STROKE,TILDE"]),
  ("LATIN SMALL LETTER R WITH", ["ACUTE,CARON,CEDILLA"]),
  ("LATIN SMALL LETTER S WITH", ["ACUTE,CARON,CEDILLA,CIRCUMFLEX"]),
  ("LATIN SMALL LETTER T WITH", ["CARON,CEDILLA,STROKE"]),
  ("LATIN SMALL LETTER U WITH",
      ["ACUTE,BREVE,CIRCUMFLEX,DIAERESIS,DOUBLE ACUTE,GRAVE,MACRON,OGONEK,RING ABOVE,TILDE"]),
  ("LATIN SMALL LETTER Y WITH", ["ACUTE,CIRCUMFLEX,DIAERESIS"]),
  ("LATIN SMALL LETTER Z WITH", ["ACUTE,CARON,DOT ABOVE"]),
  ("LEFT",
     ["CLOSED ENTRY,CURLY BRACKET,DOUBLE QUOTATION MARK,HALF BLACK CIRCLE,PARENTHESIS",
      "SINGLE QUOTATION MARK,SQUARE BRACKET,SQUARE BRACKET WITH QUILL"]),
  ("LEFT RIGHT", ["ARROW,DOUBLE ARROW,DOUBLE ARROW WITH STROKE,OPEN-HEADED ARROW,WAVE ARROW"]),
  ("LEFT RIGHT ARROW WITH", ["DOUBLE VERTICAL STROKE,STROKE,VERTICAL STROKE"]),
  ("LEFT-TO-RIGHT", ["EMBEDDING,ISOLATE,MARK,OVERRIDE"]),
  ("LEFTWARDS",
     ["ARROW,DASHED ARROW,DOUBLE ARROW,DOUBLE ARROW WITH STROKE,OPEN-HEADED ARROW",
      "PAIRED ARROWS,SQUIGGLE ARROW,TRIPLE ARROW,TWO HEADED ARROW,WAVE ARROW,WHITE ARROW"]),
  ("LEFTWARDS ARROW",
      ["FROM BAR,OVER RIGHTWARDS ARROW,TO BAR,TO BAR OVER RIGHTWARDS ARROW TO BAR"]),
  ("LEFTWARDS ARROW WITH", ["DOUBLE VERTICAL STROKE,HOOK,LOOP,STROKE,TAIL,VERTICAL STROKE"]),
  ("LEFTWARDS HARPOON", ["OVER RIGHTWARDS HARPOON,WITH BARB DOWNWARDS,WITH BARB UPWARDS"]),
  ("LIGHT",
     ["LEFT TORTOISE SHELL BRACKET ORNAMENT,RIGHT TORTOISE SHELL BRACKET ORNAMENT",
      "VERTICAL BAR"]),
  ("LINE", ["FEED,SEPARATOR,TABULATION"]),
  ("LOWER",
     ["BLADE SCISSORS,HALF CIRCLE,HALF INVERSE WHITE CIRCLE,LEFT QUADRANT CIRCULAR ARC",
      "LEFT TRIANGLE"]),
  ("LOWER RIGHT",
     ["DROP-SHADOWED WHITE SQUARE,PENCIL,QUADRANT CIRCULAR ARC,SHADOWED WHITE SQUARE",
      "TRIANGLE"]),
  ("MALE", ["AND FEMALE SIGN,SIGN,WITH STROKE AND MALE AND FEMALE SIGN,WITH STROKE SIGN"]),
  ("MEDIUM",
     ["BLACK CIRCLE,FLATTENED LEFT PARENTHESIS ORNAMENT",
      "FLATTENED RIGHT PARENTHESIS ORNAMENT,LEFT CURLY BRACKET ORNAMENT",
      "LEFT PARENTHESIS ORNAMENT,LEFT-POINTING ANGLE BRACKET ORNAMENT,MATHEMATICAL SPACE",
      "RIGHT CURLY BRACKET ORNAMENT,RIGHT PARENTHESIS ORNAMENT",
      "RIGHT-POINTING ANGLE BRACKET ORNAMENT,SMALL WHITE CIRCLE,VERTICAL BAR,WHITE CIRCLE"]),
  ("MUSIC", ["FLAT SIGN,NATURAL SIGN,SHARP SIGN"]), ("N-ARY", ["COPRODUCT,PRODUCT,SUMMATION"]),
  ("NORTH WEST", ["ARROW,ARROW TO CORNER,ARROW TO LONG BAR,DOUBLE ARROW"]),
  ("NOT",
     ["ALMOST EQUAL TO,AN ELEMENT OF,ASYMPTOTICALLY EQUAL TO,EQUAL TO,IDENTICAL TO",
      "PARALLEL TO,SIGN,TILDE"]),
  ("OPEN CENTRE", ["ASTERISK,BLACK STAR,CROSS,TEARDROP-SPOKED ASTERISK"]),
  ("OUTLINED", ["BLACK STAR,GREEK CROSS,LATIN CROSS,WHITE STAR"]),
  ("PERSON", ["BOWING DEEPLY,FROWNING,RAISING BOTH HANDS IN CELEBRATION"]),
  ("PERSON WITH", ["BALL,FOLDED HANDS,POUTING FACE"]),
  ("RECYCLING SYMBOL FOR",
     ["GENERIC MATERIALS,TYPE-1 PLASTICS,TYPE-2 PLASTICS,TYPE-3 PLASTICS,TYPE-4 PLASTICS",
      "TYPE-5 PLASTICS,TYPE-6 PLASTICS,TYPE-7 PLASTICS"]),
  ("REVERSED",
     ["DOUBLE PRIME,PILCROW SIGN,PRIME,ROTATED FLORAL HEART BULLET,SEMICOLON,TILDE",
      "TRIPLE PRIME"]),
  ("RIGHT",
     ["ANGLE,ARROW WITH SMALL CIRCLE,CURLY BRACKET,DOUBLE QUOTATION MARK,HALF BLACK CIRCLE",
      "PARENTHESIS,SINGLE QUOTATION MARK,SQUARE BRACKET,SQUARE BRACKET WITH QUILL"]),
  ("RIGHT-TO-LEFT", ["EMBEDDING,ISOLATE,MARK,OVERRIDE"]),
  ("RIGHTWARDS",
     ["ARROW,DASHED ARROW,DOUBLE ARROW,DOUBLE ARROW WITH STROKE,OPEN-HEADED ARROW",
      "PAIRED ARROWS,SQUIGGLE ARROW,TRIPLE ARROW,TWO HEADED ARROW,WAVE ARROW,WHITE ARROW",
      "WHITE ARROW FROM WALL"]),
  ("RIGHTWARDS ARROW", ["FROM BAR,OVER LEFTWARDS ARROW,TO BAR"]),
  ("RIGHTWARDS ARROW WITH",
      ["CORNER DOWNWARDS,DOUBLE VERTICAL STROKE,HOOK,LOOP,STROKE,TAIL,VERTICAL STROKE"]),
  ("RIGHTWARDS HARPOON", ["OVER LEFTWARDS HARPOON,WITH BARB DOWNWARDS,WITH BARB UPWARDS"]),
  ("RING", ["EQUAL TO,IN EQUAL TO,OPERATOR"]),
  ("ROMAN NUMERAL", ["EIGHT,ELEVEN,FIVE,FOUR,NINE,ONE,SEVEN,SIX,TEN,THREE,TWELVE,TWO"]),
  ("ROTATED", ["CAPITAL Q,FLORAL HEART BULLET,HEAVY BLACK HEART BULLET"]),
  ("SCRIPT CAPITAL", ["B,E,F,H,I,L,M,P,R"]), ("SCRIPT SMALL", ["E,G,L,O"]),
  ("SHADOWED WHITE", ["CIRCLE,LATIN CROSS,STAR"]),
  ("SINGLE",
     ["HIGH-REVERSED-9 QUOTATION MARK,LEFT-POINTING ANGLE QUOTATION MARK",
      "LOW-9 QUOTATION MARK,RIGHT-POINTING ANGLE QUOTATION MARK"]),
  ("SMILING FACE WITH", ["HALO,HEART-SHAPED EYES,HORNS,OPEN MOUTH,SMILING EYES,SUNGLASSES"]),
  ("SMILING FACE WITH OPEN MOUTH AND", ["COLD SWEAT,SMILING EYES,TIGHTLY-CLOSED EYES"]),
  ("SOUTH EAST", ["ARROW,ARROW TO CORNER,DOUBLE ARROW"]),
  ("SQUARE WITH",
     ["DIAGONAL CROSSHATCH FILL,HORIZONTAL FILL,LEFT HALF BLACK",
      "LOWER RIGHT DIAGONAL HALF BLACK,ORTHOGONAL CROSSHATCH FILL,RIGHT HALF BLACK",
      "VERTICAL FILL"]),
  ("SQUARE WITH UPPER",
      ["LEFT DIAGONAL HALF BLACK,LEFT TO LOWER RIGHT FILL,RIGHT TO LOWER LEFT FILL"]),
  ("STAR", ["AND CRESCENT,EQUALS,OF DAVID"]), ("SUPERSCRIPT", ["ONE,THREE,TWO"]),
  ("THREE", ["DOT PUNCTUATION,LINES CONVERGING LEFT,LINES CONVERGING RIGHT,RIGHTWARDS ARROWS"]),
  ("TRIGRAM FOR", ["EARTH,FIRE,HEAVEN,LAKE,MOUNTAIN,THUNDER,WATER,WIND"]),
  ("TRIPLE", ["INTEGRAL,PRIME,TILDE"]),
  ("TURNED", ["BLACK SHOGI PIECE,CAPITAL F,GREEK SMALL LETTER IOTA,WHITE SHOGI PIECE"]),
  ("TWO", ["ASTERISKS ALIGNED VERTICALLY,DOT LEADER,DOT PUNCTUATION"]),
  ("UP DOWN", ["ARROW,ARROW WITH BASE,DOUBLE ARROW,WHITE ARROW"]),
  ("UPPER",
     ["BLADE SCISSORS,HALF CIRCLE,HALF INVERSE WHITE CIRCLE,LEFT QUADRANT CIRCULAR ARC",
      "LEFT TRIANGLE"]),
  ("UPPER RIGHT",
     ["DROP-SHADOWED WHITE SQUARE,PENCIL,QUADRANT CIRCULAR ARC,SHADOWED WHITE SQUARE",
      "TRIANGLE"]),
  ("UPWARDS",
     ["ARROW,ARROW FROM BAR,ARROW LEFTWARDS OF DOWNWARDS ARROW,DASHED ARROW,DOUBLE ARROW",
      "HARPOON WITH BARB LEFTWARDS,HARPOON WITH BARB RIGHTWARDS,PAIRED ARROWS",
      "TWO HEADED ARROW"]),
  ("UPWARDS ARROW WITH", ["DOUBLE STROKE,TIP LEFTWARDS,TIP RIGHTWARDS"]),
  ("UPWARDS WHITE", ["ARROW,ARROW FROM BAR,DOUBLE ARROW,DOUBLE ARROW ON PEDESTAL"]),
  ("UPWARDS WHITE ARROW ON", ["PEDESTAL,PEDESTAL WITH HORIZONTAL BAR,PEDESTAL WITH VERTICAL BAR"]),
  ("VERTICAL", ["FOUR DOTS,LINE,MALE WITH STROKE SIGN,TABULATION"]),
  ("VULGAR FRACTION",
      ["FIVE EIGHTHS,FIVE SIXTHS,FOUR FIFTHS,SEVEN EIGHTHS,TWO FIFTHS,TWO THIRDS"]),
  ("VULGAR FRACTION ONE", ["EIGHTH,FIFTH,HALF,NINTH,QUARTER,SEVENTH,SIXTH,TENTH,THIRD"]),
  ("VULGAR FRACTION THREE", ["EIGHTHS,FIFTHS,QUARTERS"]),
  ("WHITE",
     ["BULLET,CIRCLE,CLUB SUIT,DIAMOND,DOWN POINTING INDEX,DOWN-POINTING SMALL TRIANGLE",
      "DOWN-POINTING TRIANGLE,DRAUGHTS KING,DRAUGHTS MAN,EXCLAMATION MARK ORNAMENT,FLAG",
      "FLAG WITH HORIZONTAL MIDDLE BLACK STRIPE,FLORETTE,FOUR POINTED STAR,FROWNING FACE",
      "HEART SUIT,HEAVY CHECK MARK,LEFT LANE MERGE,LEFT POINTING INDEX,MEDIUM SMALL SQUARE",
      "MEDIUM SQUARE,NIB,PARALLELOGRAM,QUESTION MARK ORNAMENT,RECTANGLE",
      "RIGHT POINTING INDEX,SCISSORS,SHOGI PIECE,SMALL SQUARE,SMILING FACE,SPADE SUIT",
      "SQUARE,SQUARE CONTAINING BLACK SMALL SQUARE,STAR,SUN WITH RAYS,TELEPHONE",
      "TWO-WAY LEFT WAY TRAFFIC,UP POINTING INDEX,VERTICAL RECTANGLE"]),
  ("WHITE CHESS", ["BISHOP,KING,KNIGHT,PAWN,QUEEN,ROOK"]),
  ("WHITE CIRCLE WITH",
     ["DOT RIGHT,LOWER LEFT QUADRANT,LOWER RIGHT QUADRANT,TWO DOTS,UPPER LEFT QUADRANT",
      "UPPER RIGHT QUADRANT"]),
  ("WHITE DIAMOND", ["CONTAINING BLACK SMALL DIAMOND,IN SQUARE,SUIT"]),
  ("WHITE LEFT-POINTING", ["POINTER,SMALL TRIANGLE,TRIANGLE"]),
  ("WHITE RIGHT-POINTING", ["POINTER,SMALL TRIANGLE,TRIANGLE"]),
  ("WHITE SQUARE WITH",
     ["LOWER LEFT QUADRANT,LOWER RIGHT QUADRANT,ROUNDED CORNERS,UPPER LEFT QUADRANT",
      "UPPER RIGHT QUADRANT,VERTICAL BISECTING LINE"]),
  ("WHITE UP-POINTING", ["SMALL TRIANGLE,TRIANGLE,TRIANGLE WITH DOT"]),
  ("ZERO WIDTH", ["JOINER,NO-BREAK SPACE,NON-JOINER,SPACE"])]

end ScriptRunner.Expression
