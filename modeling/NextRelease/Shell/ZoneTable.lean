import NextRelease.Shell.Octets

/-!
The names of time zones, grouped by the rule that says how far their clocks are ahead and when that
changes over a year.
-/

namespace NextRelease.Shell.Zone

/-- The rules, each with the names of the zones that follow it, which blanks part. -/
def ruleTable : List (String × String) :=
  [("<+00>0<+01>,0/0,J365/25",
      "Africa/Casablanca Africa/El_Aaiun"),
    ("<+00>0<+02>-2,M3.5.0/1,M10.5.0/3",
      "Antarctica/Troll"),
    ("<+01>-1",
      "Etc/GMT-1"),
    ("<+02>-2",
      "Etc/GMT-2"),
    ("<+0330>-3:30",
      "Asia/Tehran Iran"),
    ("<+03>-3",
      "Antarctica/Syowa Asia/Aden Asia/Amman Asia/Baghdad Asia/Bahrain Asia/Damascus " ++
      "Asia/Istanbul Asia/Kuwait Asia/Qatar Asia/Riyadh Etc/GMT-3 Europe/Istanbul " ++
      "Europe/Minsk Turkey"),
    ("<+0430>-4:30",
      "Asia/Kabul"),
    ("<+04>-4",
      "Asia/Baku Asia/Dubai Asia/Muscat Asia/Tbilisi Asia/Yerevan Etc/GMT-4 " ++
      "Europe/Astrakhan Europe/Samara Europe/Saratov Europe/Ulyanovsk Indian/Mahe " ++
      "Indian/Mauritius Indian/Reunion"),
    ("<+0530>-5:30",
      "Asia/Colombo"),
    ("<+0545>-5:45",
      "Asia/Kathmandu Asia/Katmandu"),
    ("<+05>-5",
      "Antarctica/Mawson Antarctica/Vostok Asia/Almaty Asia/Aqtau Asia/Aqtobe " ++
      "Asia/Ashgabat Asia/Atyrau Asia/Dushanbe Asia/Oral Asia/Qostanay Asia/Qyzylorda " ++
      "Asia/Samarkand Asia/Tashkent Asia/Yekaterinburg Etc/GMT-5 Indian/Kerguelen " ++
      "Indian/Maldives"),
    ("<+0630>-6:30",
      "Asia/Yangon Indian/Cocos"),
    ("<+06>-6",
      "Asia/Bishkek Asia/Dhaka Asia/Kashgar Asia/Omsk Asia/Thimphu Asia/Urumqi " ++
      "Etc/GMT-6 Indian/Chagos"),
    ("<+07>-7",
      "Antarctica/Davis Asia/Bangkok Asia/Barnaul Asia/Ho_Chi_Minh Asia/Hovd " ++
      "Asia/Krasnoyarsk Asia/Novokuznetsk Asia/Novosibirsk Asia/Phnom_Penh Asia/Saigon " ++
      "Asia/Tomsk Asia/Vientiane Etc/GMT-7 Indian/Christmas"),
    ("<+0845>-8:45",
      "Australia/Eucla"),
    ("<+08>-8",
      "Antarctica/Casey Asia/Brunei Asia/Choibalsan Asia/Irkutsk Asia/Kuala_Lumpur " ++
      "Asia/Kuching Asia/Singapore Asia/Ulaanbaatar Etc/GMT-8 Singapore"),
    ("<+09>-9",
      "Asia/Chita Asia/Dili Asia/Khandyga Asia/Yakutsk Etc/GMT-9 Pacific/Palau"),
    ("<+1030>-10:30<+11>-11,M10.1.0,M4.1.0",
      "Australia/Lord_Howe"),
    ("<+10>-10",
      "Antarctica/DumontDUrville Asia/Ust-Nera Asia/Vladivostok Etc/GMT-10 " ++
      "Pacific/Chuuk Pacific/Port_Moresby Pacific/Yap"),
    ("<+11>-11",
      "Asia/Magadan Asia/Sakhalin Asia/Srednekolymsk Etc/GMT-11 Pacific/Bougainville " ++
      "Pacific/Efate Pacific/Guadalcanal Pacific/Kosrae Pacific/Noumea Pacific/Pohnpei"),
    ("<+11>-11<+12>,M10.1.0,M4.1.0/3",
      "Pacific/Norfolk"),
    ("<+1245>-12:45<+1345>,M9.5.0/2:45,M4.1.0/3:45",
      "Pacific/Chatham"),
    ("<+12>-12",
      "Asia/Anadyr Asia/Kamchatka Etc/GMT-12 Pacific/Fiji Pacific/Funafuti " ++
      "Pacific/Kwajalein Pacific/Majuro Pacific/Nauru Pacific/Tarawa Pacific/Wake " ++
      "Pacific/Wallis"),
    ("<+13>-13",
      "Etc/GMT-13 Pacific/Apia Pacific/Fakaofo Pacific/Kanton Pacific/Tongatapu"),
    ("<+14>-14",
      "Etc/GMT-14 Pacific/Kiritimati"),
    ("<-01>1",
      "Atlantic/Cape_Verde Etc/GMT+1"),
    ("<-01>1<+00>,M3.5.0/0,M10.5.0/1",
      "Atlantic/Azores"),
    ("<-02>2",
      "America/Noronha Atlantic/South_Georgia Etc/GMT+2"),
    ("<-02>2<-01>,M3.5.0/-1,M10.5.0/0",
      "America/Nuuk America/Scoresbysund"),
    ("<-03>3",
      "America/Araguaina America/Argentina/Buenos_Aires America/Argentina/Catamarca " ++
      "America/Argentina/Cordoba America/Argentina/Jujuy America/Argentina/La_Rioja " ++
      "America/Argentina/Mendoza America/Argentina/Rio_Gallegos America/Argentina/Salta " ++
      "America/Argentina/San_Juan America/Argentina/San_Luis America/Argentina/Tucuman " ++
      "America/Argentina/Ushuaia America/Asuncion America/Bahia America/Belem " ++
      "America/Buenos_Aires America/Cayenne America/Coyhaique America/Fortaleza " ++
      "America/Maceio America/Montevideo America/Paramaribo America/Punta_Arenas " ++
      "America/Recife America/Santarem America/Sao_Paulo Antarctica/Palmer " ++
      "Antarctica/Rothera Atlantic/Stanley Brazil/East Etc/GMT+3"),
    ("<-03>3<-02>,M3.2.0,M11.1.0",
      "America/Miquelon"),
    ("<-04>4",
      "America/Boa_Vista America/Campo_Grande America/Caracas America/Cuiaba " ++
      "America/Guyana America/La_Paz America/Manaus America/Porto_Velho Etc/GMT+4"),
    ("<-04>4<-03>,M9.1.6/24,M4.1.6/24",
      "America/Santiago"),
    ("<-05>5",
      "America/Bogota America/Eirunepe America/Guayaquil America/Lima " ++
      "America/Porto_Acre America/Rio_Branco Etc/GMT+5"),
    ("<-06>6",
      "Etc/GMT+6 Pacific/Galapagos"),
    ("<-06>6<-05>,M9.1.6/22,M4.1.6/22",
      "Pacific/Easter"),
    ("<-07>7",
      "Etc/GMT+7"),
    ("<-08>8",
      "Etc/GMT+8 Pacific/Pitcairn"),
    ("<-0930>9:30",
      "Pacific/Marquesas"),
    ("<-09>9",
      "Etc/GMT+9 Pacific/Gambier"),
    ("<-10>10",
      "Etc/GMT+10 Pacific/Rarotonga Pacific/Tahiti"),
    ("<-11>11",
      "Etc/GMT+11 Pacific/Niue"),
    ("<-12>12",
      "Etc/GMT+12"),
    ("ACST-9:30",
      "Australia/Darwin"),
    ("ACST-9:30ACDT,M10.1.0,M4.1.0/3",
      "Australia/Adelaide Australia/Broken_Hill Australia/Yancowinna"),
    ("AEST-10",
      "Australia/Brisbane Australia/Lindeman"),
    ("AEST-10AEDT,M10.1.0,M4.1.0/3",
      "Antarctica/Macquarie Australia/ACT Australia/Canberra Australia/Currie " ++
      "Australia/Hobart Australia/Melbourne Australia/NSW Australia/Sydney"),
    ("AKST9AKDT,M3.2.0,M11.1.0",
      "America/Anchorage America/Juneau America/Metlakatla America/Nome America/Sitka " ++
      "America/Yakutat US/Alaska"),
    ("AST4",
      "America/Anguilla America/Antigua America/Aruba America/Barbados " ++
      "America/Blanc-Sablon America/Curacao America/Dominica America/Grenada " ++
      "America/Guadeloupe America/Kralendijk America/Lower_Princes America/Marigot " ++
      "America/Martinique America/Montserrat America/Port_of_Spain America/Puerto_Rico " ++
      "America/Santo_Domingo America/St_Barthelemy America/St_Kitts America/St_Lucia " ++
      "America/St_Thomas America/St_Vincent America/Tortola America/Virgin"),
    ("AST4ADT,M3.2.0,M11.1.0",
      "America/Glace_Bay America/Goose_Bay America/Halifax America/Moncton " ++
      "America/Thule Atlantic/Bermuda"),
    ("AWST-8",
      "Australia/Perth"),
    ("CAT-2",
      "Africa/Blantyre Africa/Bujumbura Africa/Gaborone Africa/Harare Africa/Juba " ++
      "Africa/Khartoum Africa/Kigali Africa/Lubumbashi Africa/Lusaka Africa/Maputo " ++
      "Africa/Windhoek"),
    ("CET-1",
      "Africa/Algiers Africa/Tunis"),
    ("CET-1CEST,M3.5.0,M10.5.0/3",
      "Africa/Ceuta Arctic/Longyearbyen Atlantic/Jan_Mayen CET Europe/Amsterdam " ++
      "Europe/Andorra Europe/Belgrade Europe/Berlin Europe/Bratislava Europe/Brussels " ++
      "Europe/Budapest Europe/Busingen Europe/Copenhagen Europe/Gibraltar " ++
      "Europe/Ljubljana Europe/Luxembourg Europe/Madrid Europe/Malta Europe/Monaco " ++
      "Europe/Oslo Europe/Paris Europe/Podgorica Europe/Prague Europe/Rome " ++
      "Europe/San_Marino Europe/Sarajevo Europe/Skopje Europe/Stockholm Europe/Tirane " ++
      "Europe/Vaduz Europe/Vatican Europe/Vienna Europe/Warsaw Europe/Zagreb " ++
      "Europe/Zurich Poland"),
    ("CST-8",
      "Asia/Chongqing Asia/Harbin Asia/Macau Asia/Shanghai Asia/Taipei PRC ROC"),
    ("CST5CDT,M3.2.0/0,M11.1.0/1",
      "America/Havana Cuba"),
    ("CST6",
      "America/Bahia_Banderas America/Belize America/Chihuahua America/Costa_Rica " ++
      "America/El_Salvador America/Guatemala America/Managua America/Merida " ++
      "America/Mexico_City America/Monterrey America/Regina America/Swift_Current " ++
      "America/Tegucigalpa"),
    ("CST6CDT,M3.2.0,M11.1.0",
      "America/Chicago America/Indiana/Knox America/Indiana/Tell_City America/Matamoros " ++
      "America/Menominee America/North_Dakota/Beulah America/North_Dakota/Center " ++
      "America/North_Dakota/New_Salem America/Ojinaga America/Rainy_River " ++
      "America/Rankin_Inlet America/Resolute America/Winnipeg CST6CDT US/Central"),
    ("ChST-10",
      "Pacific/Guam Pacific/Saipan"),
    ("EAT-3",
      "Africa/Addis_Ababa Africa/Asmara Africa/Dar_es_Salaam Africa/Djibouti " ++
      "Africa/Kampala Africa/Mogadishu Africa/Nairobi Indian/Antananarivo Indian/Comoro " ++
      "Indian/Mayotte"),
    ("EET-2",
      "Africa/Tripoli Europe/Kaliningrad Libya"),
    ("EET-2EEST,M3.4.4/50,M10.4.4/50",
      "Asia/Gaza Asia/Hebron"),
    ("EET-2EEST,M3.5.0/0,M10.5.0/0",
      "Asia/Beirut"),
    ("EET-2EEST,M3.5.0/3,M10.5.0/4",
      "Asia/Famagusta Asia/Nicosia EET Europe/Athens Europe/Bucharest Europe/Chisinau " ++
      "Europe/Helsinki Europe/Kiev Europe/Kyiv Europe/Mariehamn Europe/Nicosia " ++
      "Europe/Riga Europe/Sofia Europe/Tallinn Europe/Tiraspol Europe/Vilnius"),
    ("EET-2EEST,M4.5.5/0,M10.5.4/24",
      "Africa/Cairo Egypt"),
    ("EST5",
      "America/Atikokan America/Cancun America/Cayman America/Coral_Harbour " ++
      "America/Jamaica America/Panama EST Jamaica"),
    ("EST5EDT,M3.2.0,M11.1.0",
      "America/Detroit America/Grand_Turk America/Indiana/Indianapolis " ++
      "America/Indiana/Marengo America/Indiana/Petersburg America/Indiana/Vevay " ++
      "America/Indiana/Vincennes America/Indiana/Winamac America/Iqaluit " ++
      "America/Kentucky/Louisville America/Kentucky/Monticello America/Montreal " ++
      "America/Nassau America/New_York America/Nipigon America/Pangnirtung " ++
      "America/Port-au-Prince America/Thunder_Bay America/Toronto Canada/Eastern " ++
      "EST5EDT US/Eastern"),
    ("GMT0",
      "Africa/Abidjan Africa/Accra Africa/Bamako Africa/Banjul Africa/Bissau " ++
      "Africa/Conakry Africa/Dakar Africa/Freetown Africa/Lome Africa/Monrovia " ++
      "Africa/Nouakchott Africa/Ouagadougou Africa/Sao_Tome Africa/Timbuktu " ++
      "America/Danmarkshavn Atlantic/Reykjavik Atlantic/St_Helena Etc/GMT Etc/GMT+0 " ++
      "Etc/GMT-0 Etc/GMT0 Etc/Greenwich GMT Greenwich Iceland"),
    ("GMT0BST,M3.5.0/1,M10.5.0",
      "Europe/Belfast Europe/Guernsey Europe/Isle_of_Man Europe/Jersey Europe/London GB"),
    ("GMT0IST,M3.5.0/1,M10.5.0",
      "Eire Europe/Dublin"),
    ("HKT-8",
      "Asia/Hong_Kong Hongkong"),
    ("HST10",
      "HST Pacific/Honolulu Pacific/Johnston US/Hawaii"),
    ("HST10HDT,M3.2.0,M11.1.0",
      "America/Adak America/Atka"),
    ("IST-2IDT,M3.4.4/26,M10.5.0",
      "Asia/Jerusalem Asia/Tel_Aviv Israel"),
    ("IST-5:30",
      "Asia/Calcutta Asia/Kolkata"),
    ("JST-9",
      "Asia/Tokyo Japan"),
    ("KST-9",
      "Asia/Pyongyang Asia/Seoul ROK"),
    ("MET-1MEST,M3.5.0,M10.5.0/3",
      "MET"),
    ("MSK-3",
      "Europe/Kirov Europe/Moscow Europe/Simferopol Europe/Volgograd W-SU"),
    ("MST7",
      "America/Creston America/Dawson America/Dawson_Creek America/Fort_Nelson " ++
      "America/Hermosillo America/Mazatlan America/Phoenix America/Whitehorse MST " ++
      "US/Arizona"),
    ("MST7MDT,M3.2.0,M11.1.0",
      "America/Boise America/Cambridge_Bay America/Ciudad_Juarez America/Denver " ++
      "America/Edmonton America/Inuvik America/Shiprock America/Yellowknife MST7MDT " ++
      "US/Mountain"),
    ("NST3:30NDT,M3.2.0,M11.1.0",
      "America/St_Johns"),
    ("NZST-12NZDT,M9.5.0,M4.1.0/3",
      "Antarctica/McMurdo NZ Pacific/Auckland"),
    ("PKT-5",
      "Asia/Karachi"),
    ("PST-8",
      "Asia/Manila"),
    ("PST8PDT,M3.2.0,M11.1.0",
      "America/Ensenada America/Los_Angeles America/Santa_Isabel America/Tijuana " ++
      "America/Vancouver Canada/Pacific PST8PDT US/Pacific"),
    ("SAST-2",
      "Africa/Johannesburg Africa/Maseru Africa/Mbabane"),
    ("SST11",
      "Pacific/Midway Pacific/Pago_Pago Pacific/Samoa"),
    ("UTC0",
      "Etc/UCT Etc/UTC Etc/Universal Etc/Zulu UCT UTC Universal Zulu"),
    ("WAT-1",
      "Africa/Bangui Africa/Brazzaville Africa/Douala Africa/Kinshasa Africa/Lagos " ++
      "Africa/Libreville Africa/Luanda Africa/Malabo Africa/Ndjamena Africa/Niamey " ++
      "Africa/Porto-Novo"),
    ("WET0WEST,M3.5.0/1,M10.5.0",
      "Atlantic/Canary Atlantic/Faroe Atlantic/Madeira Europe/Lisbon Portugal WET"),
    ("WIB-7",
      "Asia/Jakarta Asia/Pontianak"),
    ("WIT-9",
      "Asia/Jayapura"),
    ("WITA-8",
      "Asia/Makassar")]

def ruleOf? (name : Octets) : Option Octets :=
  (ruleTable.find? fun entry => (entry.2.splitOn " ").contains (String.ofList name)).map
    fun entry => entry.1.toList

end NextRelease.Shell.Zone
